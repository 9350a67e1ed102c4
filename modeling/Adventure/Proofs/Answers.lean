import Adventure.Proofs.Turns

/-!
# What answers in conversations do to a play

An answer runs through turns like a command, but it does one thing more: a choice that can be made
only once is withdrawn (`Withdrawal`). The store is not told of that. It happens after the actions
of the choice and before the conversation goes on; if nothing fails it happens exactly when such a
choice is made (`answers_hear`).
-/

namespace Adventure

open World

/-- A choice is not offered any more. -/
def Withdrawal (id : EntityId .choice) (p p' : Play) : Prop :=
  ∃ choice : World.Choice, p.world.get? id = some choice ∧
    p' = { p with world := p.world.put id { choice with enabled := false } }

/-- The choice in `W` is withdrawn, or there is none and nothing happens. -/
inductive Fades (W : EntityId .choice → Prop) : Play → Play → Prop
  | stay {p : Play} (none : ∀ id, ¬W id) : Fades W p p
  | withdraw {p p' : Play} {id : EntityId .choice} (chosen : W id)
      (withdrawal : Withdrawal id p p') : Fades W p p'

/-- What happens to a play in an answer by which the choice in `W` is withdrawn. -/
structure Answered (W : EntityId .choice → Prop) (p p' : Play) : Prop where
  offered : ∀ id, W id → ∃ choice : World.Choice, p.world.get? id = some choice ∧
    choice.enabled = true
  course : ∃ p₁ p₂, Turns p p₁ ∧ Fades W p₁ p₂ ∧ Turns p₂ p'

/-- An answer that withdraws nothing is like a command. -/
theorem Turns.answered {W : EntityId .choice → Prop} {p p' : Play} (h : Turns p p')
    (none : ∀ id, ¬W id) : Answered W p p' :=
  ⟨fun id hid => absurd hid (none id), p', p', h, .stay none, .refl⟩

/-- Turns that follow an answer belong to it. -/
theorem Answered.followed {W : EntityId .choice → Prop} {p p₁ p' : Play} (h : Answered W p p₁)
    (hturns : Turns p₁ p') : Answered W p p' := by
  obtain ⟨offered, p₂, p₃, hbefore, hfades, hafter⟩ := h
  exact ⟨offered, p₂, p₃, hbefore, hfades, hafter.trans hturns⟩

/-- Turns that come before an answer and leave the world as it is belong to it. -/
theorem Answered.preceded {W : EntityId .choice → Prop} {p p₁ p' : Play} (h : Answered W p₁ p')
    (hturns : Turns p p₁) (hworld : p₁.world = p.world) : Answered W p p' := by
  obtain ⟨offered, p₂, p₃, hbefore, hfades, hafter⟩ := h
  exact ⟨hworld ▸ offered, p₂, p₃, hturns.trans hbefore, hfades, hafter⟩

/-- The choice that an answer makes and that can be made only once. -/
def Dialogue.Withdraws (d : Dialogue) (w : World) (input : Input) (id : EntityId .choice) : Prop :=
  ∃ line, ∃ choice : World.Choice, input = .line line ∧ chosen? d.offered line = some id ∧
    w.get? id = some choice ∧ choice.disableAfterChosen = true

namespace Act

open Steps

variable {α β : Type}

/-- An act leads through turns to where it stops, or to a last step that `Q` describes. -/
def Ends (Q : Play → Play → Prop) (m : Act α) : Prop := ∀ p : Play,
  (∀ a p', m p = (.ok a, p') → ∃ p₁, Turns p p₁ ∧ Q p₁ p') ∧
  ∀ failure p', m p = (.error failure, p') → ∃ p₁, Turns p p₁ ∧ Stop p₁ p'

/-- From a play, an act leads to the end of an answer by which the choice in `W` is withdrawn, or it
stops on the way. -/
def Answers (W : EntityId .choice → Prop) (m : Act α) (p : Play) : Prop :=
  (∀ a p', m p = (.ok a, p') → Answered W p p') ∧
  ∀ failure p', m p = (.error failure, p') → ∃ p₁, (Turns p p₁ ∨ Answered W p p₁) ∧ Stop p₁ p'

namespace Runs

variable {Q : Play → Play → Prop}

theorem ends {m : Act α} (hm : Runs m) (hQ : ∀ p, Q p p) : Ends Q m := fun p =>
  ⟨fun a p' h => ⟨p', (hm p).1 a p' h, hQ p'⟩, (hm p).2⟩

theorem bindEnds {m : Act α} {f : α → Act β} (hm : Runs m) (hf : ∀ a, Ends Q (f a)) :
    Ends Q (m >>= f) := by
  intro p
  rcases hmp : m p with ⟨failure | a, p₁⟩
  · rw [bind_of_error hmp]
    exact results_error ((hm p).2 _ _ hmp)
  · rw [bind_of_ok hmp]
    have hturns := (hm p).1 _ _ hmp
    constructor
    · intro b p' h
      obtain ⟨p₂, hturns', hlast⟩ := (hf a p₁).1 b p' h
      exact ⟨p₂, hturns.trans hturns', hlast⟩
    · intro failure p' h
      obtain ⟨p₂, hturns', hstop⟩ := (hf a p₁).2 failure p' h
      exact ⟨p₂, hturns.trans hturns', hstop⟩

theorem whenNotEnds {c : Prop} [Decidable c] {m : Act Unit} {k : Unit → Act α} (hm : Runs m)
    (hk : ∀ u, Ends Q (k u)) : Ends Q (if c then k () else m >>= k) := by
  split
  · exact hk ()
  · exact hm.bindEnds hk

theorem answers {W : EntityId .choice → Prop} {m : Act α} (hm : Runs m) (none : ∀ id, ¬W id)
    (p : Play) : Answers W m p := by
  refine ⟨fun a p' h => ((hm p).1 a p' h).answered none, fun failure p' h => ?_⟩
  obtain ⟨p₁, hturns, hstop⟩ := (hm p).2 failure p' h
  exact ⟨p₁, .inl hturns, hstop⟩

end Runs

theorem ends_withdraw (id : EntityId .choice) (a : α) : Ends (Withdrawal id) (do
    edit (Edit.change id fun c => { c with enabled := false })
    return a) := by
  intro p
  cases hfound : p.world.get? id with
  | none =>
    have h : edit (Edit.change id fun c => { c with enabled := false }) p
        = (.error (.unknownEntity .choice id.uuid), p) := by
      simp [edit, Edit.change, World.find, hfound]
    rw [bind_of_error h]
    exact results_error ⟨p, .refl, .halt p⟩
  | some choice =>
    have h : edit (Edit.change id fun c => { c with enabled := false }) p
        = (.ok (), { p with world := p.world.put id { choice with enabled := false } }) := by
      simp [edit, Edit.change, World.find, hfound]
    rw [bind_of_ok h]
    exact results_ok ⟨p, .refl, choice, hfound, rfl⟩

/-- Choosing withdraws the choice at the end if it can be made only once; nothing that the actions
of the choice do to it changes that. -/
theorem choose_course (t : Thread) (speaker : String) (id : EntityId .choice) (p : Play) :
    (∀ thread p', t.choose speaker id p = (.ok thread, p') →
      ∃ choice : World.Choice, p.world.get? id = some choice ∧ choice.enabled = true ∧
        ∃ p₁, Turns p p₁ ∧ if choice.disableAfterChosen then Withdrawal id p₁ p' else p₁ = p') ∧
    ∀ failure p', t.choose speaker id p = (.error failure, p') → ∃ p₁, Turns p p₁ ∧ Stop p₁ p' := by
  unfold Thread.choose
  cases hfound : p.world.get? id with
  | none =>
    rw [bind_of_error (find_absent hfound)]
    exact results_error ⟨p, .refl, .halt p⟩
  | some choice =>
    rw [bind_of_ok (find_present hfound)]
    by_cases hbad : some choice.layer ≠ t.layer ∨ choice.enabled = false
    · rw [if_pos hbad]
      exact results_error ⟨p, .refl, .halt p⟩
    · rw [if_neg hbad]
      have henabled : choice.enabled = true := by
        rw [not_or, Bool.not_eq_false] at hbad
        exact hbad.2
      have hlast : ∀ thread : Thread, Ends (fun p₁ p' =>
          if choice.disableAfterChosen then Withdrawal id p₁ p' else p₁ = p') (do
            if choice.disableAfterChosen then
              edit (Edit.change id fun c => { c with enabled := false })
            return thread) := by
        intro thread
        by_cases honce : choice.disableAfterChosen = true
        · simp only [honce, if_true]
          exact ends_withdraw id thread
        · simp only [honce]
          exact (Made.pure thread).runs.ends fun _ => rfl
      have hends := made_world.runs.bindEnds fun w =>
        (Made.push (.speech w.player.name choice.text)).runs.bindEnds fun _ =>
          Runs.whenNotEnds (c := choice.answer.isEmpty = true)
            (Made.push (.speech speaker choice.answer)).runs fun _ =>
              (made_triggerAll trivial choice.actions).runs.bindEnds fun _ =>
                hlast { t with layer := choice.target }
      refine ⟨fun thread p' h => ?_, (hends p).2⟩
      obtain ⟨p₁, hturns, hcourse⟩ := (hends p).1 thread p' h
      exact ⟨choice, rfl, henabled, p₁, hturns, hcourse⟩

/-- Going on after an answer belongs to it. -/
theorem Answers.bind {W : EntityId .choice → Prop} {m : Act α} {f : α → Act β} {p : Play}
    (hm : Answers W m p) (hf : ∀ a, Runs (f a)) : Answers W (m >>= f) p := by
  rcases hmp : m p with ⟨failure | a, p₁⟩
  · rw [Answers, bind_of_error hmp]
    exact results_error (hm.2 _ _ hmp)
  · rw [Answers, bind_of_ok hmp]
    have hanswered := hm.1 _ _ hmp
    refine ⟨fun b p' h => hanswered.followed ((hf a p₁).1 b p' h), fun failure p' h => ?_⟩
    obtain ⟨p₂, hturns, hstop⟩ := (hf a p₁).2 failure p' h
    exact ⟨p₂, .inr (hanswered.followed hturns), hstop⟩

theorem answers_choose (d : Dialogue) {line : String} {id : EntityId .choice}
    (hchosen : chosen? d.offered line = some id) (p : Play) :
    Answers (d.Withdraws p.world (.line line)) (d.thread.choose d.speaker id) p := by
  obtain ⟨hok, herror⟩ := choose_course d.thread d.speaker id p
  constructor
  · intro thread p' h
    obtain ⟨choice, hfound, henabled, p₁, hturns, hcourse⟩ := hok thread p' h
    have hwithdraws : ∀ other, d.Withdraws p.world (.line line) other →
        other = id ∧ choice.disableAfterChosen = true := by
      rintro other ⟨_, choice', hline, hother, hfound', honce⟩
      obtain rfl := Input.line.inj hline
      obtain rfl : id = other := Option.some.inj (hchosen.symm.trans hother)
      obtain rfl : choice = choice' := Option.some.inj (hfound.symm.trans hfound')
      exact ⟨rfl, honce⟩
    refine ⟨fun other h => ?_, p₁, p', hturns, ?_, .refl⟩
    · rw [(hwithdraws other h).1]
      exact ⟨choice, hfound, henabled⟩
    · by_cases honce : choice.disableAfterChosen = true
      · rw [if_pos honce] at hcourse
        exact .withdraw ⟨line, choice, rfl, hchosen, hfound, honce⟩ hcourse
      · rw [if_neg honce] at hcourse
        exact hcourse ▸ .stay fun other h => honce (hwithdraws other h).2
  · intro failure p' h
    obtain ⟨p₁, hturns, hstop⟩ := herror failure p' h
    exact ⟨p₁, .inl hturns, hstop⟩

/-- An answer withdraws a choice if it makes one that can be made only once. -/
theorem answers_answer (d : Dialogue) (input : Input) (p : Play) :
    Answers (d.Withdraws p.world input) (d.answer input) p := by
  have hline : ∀ id, d.Withdraws p.world input id → ∃ line, input = .line line := by
    rintro id ⟨line, -, hline, -⟩
    exact ⟨line, hline⟩
  cases input with
  | broken text => exact (made_fail _).runs.answers (fun id h => (hline id h).elim nofun) p
  | ended | interrupt =>
    exact (d.made_close trivial).runs.answers (fun id h => (hline id h).elim nofun) p
  | line line =>
    rw [Dialogue.answer]
    cases hchosen : chosen? d.offered line with
    | some id => exact (answers_choose d hchosen p).bind fun thread =>
        (Dialogue.made_proceed trivial _).runs
    | none =>
      have hmade : Made True False True (do
          push (.actionFailure (← texts).invalidChoice)
          d.proceed) :=
        made_texts.bind fun _ => (Made.push _).bind fun _ => d.made_proceed trivial
      refine hmade.runs.answers ?_ p
      rintro id ⟨_, _, hline, hid, -⟩
      obtain rfl := Input.line.inj hline
      rw [hchosen] at hid
      cases hid

/-- Whatever the player sends in a conversation, going on with it does no more than some turns and
withdraws a choice if it makes one that can be made only once. -/
theorem answers_hear (d : Dialogue) (input : Input) (p : Play) :
    Answers (d.Withdraws p.world input) (d.hear input) p := by
  have hlog : log (.read .choice input) p
      = (.ok (), { p with log := .read .choice input :: p.log }) :=
    rfl
  have hturn : Turns p { p with log := .read .choice input :: p.log } :=
    .single (.aside (aside_log rfl p))
  obtain ⟨hok, herror⟩ := answers_answer d input { p with log := .read .choice input :: p.log }
  rw [Dialogue.hear, Answers, bind_of_ok hlog]
  refine ⟨fun a p' h => (hok a p' h).preceded hturn rfl, fun failure p' h => ?_⟩
  obtain ⟨p₁, hcourse, hstop⟩ := herror failure p' h
  refine ⟨p₁, hcourse.imp hturn.trans fun hanswered => hanswered.preceded hturn rfl, hstop⟩

end Act

end Adventure
