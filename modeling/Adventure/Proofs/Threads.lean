import Adventure.Proofs.Histories

/-!
# Choosing

A choice can be made if it is offered: it belongs to the layer where the conversation is and is
enabled. What is said, what runs and where the conversation goes on is then settled by the choice
as it is before its actions run (`Thread.choose_of_offered`); a choice that is not offered is
refused and nothing happens (`Thread.choose_of_not_offered`).
-/

namespace Adventure

open World

/-- What is said when a choice is made: its text, then the answer if there is one. -/
def World.Choice.words (c : Choice) (player speaker : String) : List ViewItem :=
  .speech player c.text :: if c.answer.isEmpty then [] else [.speech speaker c.answer]

/-- Withdraws a choice. -/
def Act.withdraw (id : EntityId .choice) : Act Unit :=
  edit (Edit.change id fun c => { c with enabled := false })

namespace Thread

open Steps

variable {t t' : Thread} {speaker : String} {id : EntityId .choice} {c : Choice} {p p' : Play}

/-- What follows the words of a choice. -/
def carryOn (t : Thread) (id : EntityId .choice) (c : Choice) : Act Thread := do
  Act.triggerAll c.actions
  if c.disableAfterChosen then Act.withdraw id
  return { t with layer := c.target }

theorem choose_of_offered (hc : p.world.get? id = some c) (hlayer : t.layer = some c.layer)
    (henabled : c.enabled = true) (speaker : String) :
    t.choose speaker id p =
      t.carryOn id c (p.say (c.words p.world.player.name speaker)) := by
  have hoffered : ¬(some c.layer ≠ t.layer ∨ c.enabled = false) := by simp [hlayer, henabled]
  rw [choose, bind_of_ok (Act.find_present hc)]
  simp only [if_neg hoffered]
  rw [bind_of_ok (show Act.world p = (.ok p.world, p) from rfl)]
  rw [bind_of_ok (show Act.push _ p = (.ok (), _) from rfl)]
  by_cases hanswer : c.answer.isEmpty = true
  · simp only [if_pos hanswer, Choice.words]
    rfl
  · simp only [if_neg hanswer, Choice.words]
    rw [bind_of_ok (show Act.push _ _ = (.ok (), _) from rfl), Play.say_say]
    rfl

theorem choose_of_not_offered (h : ¬∃ c, p.world.get? id = some c ∧ t.layer = some (Choice.layer c)
    ∧ Choice.enabled c = true) (speaker : String) :
    ∃ failure, t.choose speaker id p = (.error failure, p) := by
  cases hc : p.world.get? id with
  | none => exact ⟨_, bind_of_error (Act.find_absent hc)⟩
  | some c =>
    by_cases hrefused : some (Choice.layer c) ≠ t.layer ∨ Choice.enabled c = false
    · refine ⟨.notOffered (Choice.symbol c), ?_⟩
      rw [choose, bind_of_ok (Act.find_present hc)]
      simp only [if_pos hrefused]
      exact bind_of_error rfl
    · obtain ⟨hlayer, henabled⟩ := not_or.1 hrefused
      exact absurd ⟨c, hc, (Decidable.not_not.1 hlayer).symm, by simpa using henabled⟩ h

/-- Where a conversation goes on after a choice is known before its actions run. -/
theorem of_choose_ok (h : t.choose speaker id p = (.ok t', p')) :
    ∃ c, p.world.get? id = some c ∧ t.layer = some (Choice.layer c) ∧
      t' = { t with layer := Choice.target c } := by
  by_cases hoffered : ∃ c, p.world.get? id = some c ∧ t.layer = some (Choice.layer c) ∧
      Choice.enabled c = true
  · obtain ⟨c, hc, hlayer, henabled⟩ := hoffered
    refine ⟨c, hc, hlayer, ?_⟩
    rw [choose_of_offered hc hlayer henabled, carryOn] at h
    obtain ⟨_, p₁, -, h⟩ := ok_of_bind h
    split at h
    · obtain ⟨_, _, -, h⟩ := ok_of_bind h
      exact (Except.ok.inj (Prod.mk.inj h).1).symm
    · exact (Except.ok.inj (Prod.mk.inj h).1).symm
  · obtain ⟨failure, hrefused⟩ := choose_of_not_offered hoffered speaker
    rw [hrefused] at h
    cases h

end Thread

end Adventure
