import Adventure.Play.Trigger
import Adventure.Proofs.ActionGraph
import Adventure.Proofs.Keeps

/-!
# Cascades

Triggering an action walks through all that it contains, reading the graph anew at every step
while the actions at the ends of the walks change the world. Since no effect changes the graph,
the walk is the same as running the leaves in order, known before anything runs
(`trigger_eq_runLeaves`): each one takes effect and the store is told of it if it is enabled by
then, and the first failure stops all. So it is with several actions that are triggered in order
(`triggerAll_of_cascading`).
-/

namespace Adventure.Act

open Steps World

/-- Runs an action that is not made up of others: if it is enabled now, it takes effect and the
store is told. -/
def runLeaf (id : EntityId .action) : Act Unit := do
  let action ← find id
  if action.enabled then do
    enact action
    tell .flush
  else pure ()

/-- Runs leaves one after the other. -/
def runLeaves (ids : List (EntityId .action)) : Act Unit := ids.forM runLeaf

/-! ## What acts keep of the skeleton -/

/-- Two plays of worlds with one skeleton. -/
def SameFrame (p p' : Play) : Prop := SameSkeleton p.world p'.world

instance : Std.Refl SameFrame := ⟨fun p => refl_of SameSkeleton p.world⟩

instance : IsTrans Play SameFrame := ⟨fun _ _ _ h h' => trans_of SameSkeleton h h'⟩

theorem sameFrame_edit {α : Type} {e : Edit α} (h : Moves SameSkeleton e) :
    Moves SameFrame (edit e) :=
  fun p => h p.world

theorem sameFrame_tell (call : StoreCall) : Moves SameFrame (tell call) := by
  intro p
  simp only [tell]
  split <;> exact refl_of SameSkeleton p.world

theorem sameFrame_perform (effect : Effect EntityId ObjectRef) :
    Moves SameFrame (perform effect) := by
  have hskeleton : Moves SameSkeleton (Edit.apply effect) := fun w =>
    (Edit.keeps_apply effect w).skeleton
  refine (sameFrame_edit hskeleton).bind fun _ => ?_
  split
  · refine Moves.bind (fun p => refl_of SameFrame p) fun w => ?_
    exact Moves.bind (fun p => refl_of SameSkeleton p.world) fun _ => fun p =>
      refl_of SameSkeleton p.world
  · exact .pure _

theorem sameFrame_enact (action : Action) : Moves SameFrame (enact action) := by
  refine Moves.bind (fun p => refl_of SameFrame p) fun before => ?_
  exact (sameFrame_perform _).bind fun _ => fun p => refl_of SameSkeleton p.world

theorem sameFrame_runLeaf (id : EntityId .action) : Moves SameFrame (runLeaf id) := by
  refine Moves.bind (fun p => refl_of SameFrame p) fun action => .ite ?_ (.pure _)
  exact (sameFrame_enact _).bind fun _ => sameFrame_tell .flush

theorem sameFrame_runLeaves (ids : List (EntityId .action)) : Moves SameFrame (runLeaves ids) :=
  .forM ids fun id _ => sameFrame_runLeaf id

/-! ## The walk and its leaves -/

theorem runLeaves_flatMap (f : EntityId .action → List (EntityId .action)) :
    ∀ ids : List (EntityId .action),
      runLeaves (ids.flatMap f) = ids.forM fun id => runLeaves (f id)
  | [] => rfl
  | id :: ids => by
    have ih := runLeaves_flatMap f ids
    simp only [runLeaves, List.forM_eq_forM] at ih ⊢
    rw [List.flatMap_cons, List.forM_append, ih, List.forM_cons]

/-- A walk runs the leaves of where it is, as they are in any world of the same skeleton. -/
theorem triggerFrom_eq {w : World} {depth : Nat} {path : List (EntityId .action)}
    {id : EntityId .action} (hpath : w.Path path id) (hc : w.Cascading id)
    (hdepth : w.depth ≤ path.length + depth) : ∀ p : Play, SameSkeleton w p.world →
      triggerFrom depth path id p = runLeaves (w.leavesFrom depth id) p := by
  induction hpath, hdepth using Path.induction with
  | step depth path id hpath _ ih =>
    intro p hp
    obtain ⟨action, haction⟩ := (hc.of_sameSkeleton hp).get?
    have hparts := partsOf_of_get?_of_sameSkeleton hp haction
    have hfind : (find id : Act Action) p = (.ok action, p) := find_present haction
    rw [triggerFrom, hpath.contains_eq_false hc, if_neg Bool.false_ne_true, bind_of_ok hfind,
      leavesFrom, hparts]
    cases heq : action.parts? with
    | none =>
      have hrun : runLeaf id p = runSingle action p := by
        rw [runLeaf, bind_of_ok hfind, runSingle]
      simp only [runLeaves, List.forM_eq_forM, List.forM_cons, List.forM_nil, bind_pure_unit]
      exact hrun.symm
    | some parts =>
      rw [runLeaves_flatMap]
      have hkept : ∀ (part : EntityId .action) (p' : Play), SameSkeleton w p'.world →
          SameSkeleton w (runLeaves (w.leavesFrom depth part) p').2.world := fun part p' hp' =>
        trans_of SameSkeleton hp' (sameFrame_runLeaves _ p')
      refine forM_congr (fun part hpart p' hp' => ⟨?_, hkept part p' hp'⟩) p hp
      have hcontains : w.Contains id part := ⟨parts, hparts.trans heq, hpart⟩
      exact ih part (hpath.cons hc hcontains) (hc.of_contains hcontains) p' hp'

theorem trigger_of_cascading {p : Play} {id : EntityId .action} (h : p.world.Cascading id) :
    trigger id p = runLeaves (p.world.leaves id) p :=
  triggerFrom_eq Path.nil h (by simp) p (refl_of SameSkeleton p.world)

/-- Triggering several actions is running the leaves of each in order, as they are before anything
runs. -/
theorem triggerAll_of_cascading {p : Play} {ids : List (EntityId .action)}
    (h : ∀ id ∈ ids, p.world.Cascading id) :
    triggerAll ids p = runLeaves (ids.flatMap p.world.leaves) p := by
  rw [runLeaves_flatMap]
  refine forM_congr (P := fun q => SameSkeleton p.world q.world) (fun id hid q hq => ⟨?_, ?_⟩) p
    (refl_of SameSkeleton p.world)
  · rw [trigger_of_cascading ((h id hid).of_sameSkeleton hq), leaves_of_sameSkeleton hq]
  · exact trans_of SameSkeleton hq (sameFrame_runLeaves _ q)

/-- Triggering an action is running its leaves in order, as they are before anything runs. The
result is the same, and so is all that a play holds: the world, the messages, the status and what
the store was told. The leaves do not depend on any flags. -/
theorem trigger_eq_runLeaves (p : Play) (id : EntityId .action) (h : p.world.Cascading id) :
    trigger id p = runLeaves (p.world.leaves id) p ∧
      ∀ w, SameSkeleton p.world w → w.leaves id = p.world.leaves id :=
  ⟨trigger_of_cascading h, fun _ hw => leaves_of_sameSkeleton hw id⟩

/-- A disabled action that rings a bell twice and an action that rings it, which is enabled. -/
def bellWorld : World :=
  { World.empty {} "" with
    actions := .ofList
      [(⟨⟨1⟩⟩, ⟨⟨⟨1⟩⟩, "twice", "", false, none, none, .sequence [⟨⟨2⟩⟩, ⟨⟨2⟩⟩]⟩),
       (⟨⟨2⟩⟩, ⟨⟨⟨2⟩⟩, "ring", "", true, none, none, .endGame none⟩)] }

theorem finite_bellWorld : bellWorld.Finite ⟨⟨1⟩⟩ := by
  refine .sequence rfl rfl fun part hpart => ?_
  obtain rfl : part = ⟨⟨2⟩⟩ := by simpa using hpart
  exact .single rfl rfl

theorem trigger_eq_runLeaves_bellWorld :
    bellWorld.Cascading ⟨⟨1⟩⟩ ∧
      trigger ⟨⟨1⟩⟩ { world := bellWorld } = runLeaves [⟨⟨2⟩⟩, ⟨⟨2⟩⟩] { world := bellWorld } :=
  have h : bellWorld.Cascading ⟨⟨1⟩⟩ := finite_bellWorld.cascading
  ⟨h, (trigger_eq_runLeaves { world := bellWorld } ⟨⟨1⟩⟩ h).1⟩

end Adventure.Act
