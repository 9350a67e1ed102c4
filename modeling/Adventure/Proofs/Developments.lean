import Adventure.Proofs.Keeps
import Adventure.Proofs.Turns

/-!
# What becomes of a world

The world of a session changes in no other way than by effects, which may fail halfway, and by
choices that are withdrawn (`Advance`). So whatever the player sends and the store does, and whether
the session fails or not, the skeleton stays as it is and places and links stay in order
(`Session.develops_foldl`, `Develops.keeps`).
-/

namespace Adventure

open World

namespace World

/-- What play does to a world in one go. -/
inductive Advance : World → World → Prop
  | effect (w : World) (effect : Effect EntityId ObjectRef) : Advance w (Edit.apply effect w).2
  | withdraw {w : World} {id : EntityId .choice} {choice : Choice}
      (found : w.get? id = some choice) :
      Advance w (w.put id { choice with enabled := false })

/-- What may become of a world in the course of play. -/
def Develops : World → World → Prop := Relation.ReflTransGen Advance

theorem Develops.of_apply {w w' : World} {effect : Effect EntityId ObjectRef}
    {result : Except Failure Unit} (h : Edit.apply effect w = (result, w')) : Develops w w' := by
  have hstep := Advance.effect w effect
  rw [h] at hstep
  exact .single hstep

theorem Advance.keeps {w w' : World} (h : Advance w w') : Keeps w w' := by
  cases h with
  | effect e => exact Edit.keeps_apply e w
  | withdraw found => exact .put found rfl fun hfits => hfits

/-- Play neither touches the skeleton of a world nor harms its places and links. -/
theorem Develops.keeps {w w' : World} (h : Develops w w') : Keeps w w' := by
  induction h with
  | refl => exact refl_of Keeps w
  | tail _ hadvance ih => exact trans_of _ ih hadvance.keeps

end World

/-! ## Histories -/

/-- Nothing that happens in a play does more to its world. -/
theorem Play.develops_next {p : Play} {e : Happening} (h : e.Fits p) :
    Develops p.world (p.next e).world := by
  cases e with
  | did id action =>
    rw [Play.next_did h]
    exact .single (.effect _ _)
  | withdrew id =>
    obtain ⟨choice, hfound⟩ := h
    have hnext : (p.next (.withdrew id)).world
        = p.world.put id { choice with enabled := false } := by
      simp [Play.next, Act.edit, Edit.change, World.find, hfound]
    rw [hnext]
    exact .single (.withdraw hfound)
  | told call w refusal =>
    rw [Play.next_told]
    exact .refl
  | spoiled failure w =>
    obtain ⟨action, hfailed⟩ := h
    exact Develops.of_apply hfailed
  | parsed line =>
    rw [Play.next_parsed]
    exact .refl
  | read | said | shown | left | halted => exact .refl

theorem Play.develops_after {p : Play} {h : List Happening} (hh : p.Undergoes h) :
    Develops p.world (p.after h).world := by
  induction h generalizing p with
  | nil => exact .refl
  | cons e h ih =>
    obtain ⟨hfits, hrest⟩ := Play.undergoes_cons.1 hh
    exact (Play.develops_next hfits).trans (ih hrest)

/-! ## Acts -/

/-- The world of the second play is what has become of that of the first. -/
def Later (p p' : Play) : Prop := Develops p.world p'.world

instance : Std.Refl Later := ⟨fun _ => .refl⟩

instance : IsTrans Play Later := ⟨fun _ _ _ h h' => Relation.ReflTransGen.trans h h'⟩

namespace Act

open Steps

theorem Made.later {α : Type} {m : Act α} (h : Made True True True m) : Moves Later m := by
  intro p
  obtain ⟨history, hhistory, heq⟩ := (h.course p).exists_after
  rw [Later, heq]
  exact Play.develops_after hhistory

theorem later_log (event : Event) : Moves Later (log event) := fun _ => .refl

theorem later_hear (d : Dialogue) (input : Input) : Moves Later (d.hear input) :=
  (later_log _).bind fun _ => (d.made_answer input).later

theorem later_tell (call : StoreCall) : Moves Later (tell call) := by
  intro p
  simp only [tell]
  split <;> exact .refl

/-- An effect may change the world even if it fails. -/
theorem later_perform (effect : Effect EntityId ObjectRef) : Moves Later (perform effect) := by
  intro p
  rcases perform_eq effect p with ⟨p', hp', happly, -, -⟩ | ⟨failure, -, hp'⟩
  · rw [Later, hp']
    exact Develops.of_apply happly
  · rw [Later, hp']
    exact .single (.effect p.world effect)

end Act

/-! ## Sessions -/

namespace Session

open Steps Act

theorem later_takeInput (input : Input) (phase : Phase) : Moves Later (takeInput input phase) := by
  rcases phase with _ | d | failure
  · exact (later_log _).bind fun _ => moves_takeCommand Made.later (later_tell _) input
  · exact (later_hear d input).bind fun _ => moves_continueCommand Made.later (later_tell _) _
  · exact .pure _

theorem aside_start (w : World) (store : Store) :
    Aside { world := w, store } (start w store).play := by
  rw [start, play_ofAct]
  exact made_opening.aside { world := w, store }

theorem develops_start (w : World) (store : Store) : Develops w (start w store).play.world := by
  rw [(aside_start w store).world]
  exact .refl

theorem develops_step (s : Session) (input : Input) :
    Develops s.play.world (s.step input).play.world := by
  rw [step_eq, play_ofAct]
  exact later_takeInput input s.phase s.play

/-- The world of a session after some inputs is what has become of the one before. -/
theorem develops_foldl (s : Session) (inputs : List Input) :
    Develops s.play.world (inputs.foldl step s).play.world := by
  induction inputs generalizing s with
  | nil => exact .refl
  | cons input inputs ih => exact (develops_step s input).trans (ih (s.step input))

end Session

end Adventure
