import Adventure.Failure
import Mathlib.Logic.Relation

/-!
# Steps that may fail

An edit carries a world on and an act carries a play on. Both are steps on a state that may fail
and then leave the state as it is. What is said of a step comes in two forms:

* `Moves R m`: `m` leads from any state to one that `R` relates to it, whether it fails or not.
  With `R` reflexive and transitive this passes through sequences (`Moves.bind`, `Moves.forM`).
* `Succeeds P m Q`: where `P` holds, `m` does not fail and `Q` holds of its result and of the
  state it leads to.
-/

namespace Adventure

/-- A check that goes on after another one succeeds if both do. -/
theorem bind_eq_ok {ε α β : Type} {m : Except ε α} {f : α → Except ε β} {b : β} :
    (m >>= f) = .ok b ↔ ∃ a, m = .ok a ∧ f a = .ok b := by
  cases m with
  | ok a => exact ⟨fun h => ⟨a, rfl, h⟩, by rintro ⟨_, ⟨⟩, h⟩; exact h⟩
  | error failure => exact ⟨nofun, by rintro ⟨_, h, -⟩; cases h⟩

theorem exists_ok_of_isOk {ε α : Type} {r : Except ε α} (h : r.isOk = true) : ∃ a, r = .ok a := by
  cases r with
  | ok a => exact ⟨a, rfl⟩
  | error failure => cases h

/-- A computation whose result passes a test does not fail. -/
theorem exists_ok_of_any {ε α : Type} {r : Except ε α} {test : α → Bool}
    (h : r.toOption.any test = true) : ∃ a, r = .ok a ∧ test a = true := by
  cases r with
  | ok a => exact ⟨a, rfl, h⟩
  | error failure => cases h

/-- Steps on states of type `σ` that may fail. -/
abbrev Steps (σ α : Type) := ExceptT Failure (StateM σ) α

namespace Steps

variable {σ α β : Type}

/-! ## Running a sequence -/

theorem bind_eq (m : Steps σ α) (f : α → Steps σ β) (s : σ) :
    (m >>= f) s = match m s with
      | (.ok a, s') => f a s'
      | (.error failure, s') => (.error failure, s') := by
  simp only [bind, ExceptT.bind, ExceptT.mk, StateT.bind, ExceptT.bindCont]
  rcases m s with ⟨_ | _, _⟩ <;> rfl

theorem bind_of_ok {m : Steps σ α} {f : α → Steps σ β} {s s' : σ} {a : α} (h : m s = (.ok a, s')) :
    (m >>= f) s = f a s' := by
  rw [bind_eq, h]

theorem bind_of_error {m : Steps σ α} {f : α → Steps σ β} {s s' : σ} {failure : Failure}
    (h : m s = (.error failure, s')) : (m >>= f) s = (.error failure, s') := by
  rw [bind_eq, h]

/-- It only matters what the first step of a sequence comes to. -/
theorem bind_congr_at {m m' : Steps σ α} {f : α → Steps σ β} {s s' : σ} (h : m s = m' s') :
    (m >>= f) s = (m' >>= f) s' := by
  rw [bind_eq, bind_eq, h]

/-- A sequence that succeeds does so part by part. -/
theorem ok_of_bind {m : Steps σ α} {f : α → Steps σ β} {s s' : σ} {b : β}
    (h : (m >>= f) s = (.ok b, s')) : ∃ a s₁, m s = (.ok a, s₁) ∧ f a s₁ = (.ok b, s') := by
  rcases hm : m s with ⟨failure | a, s₁⟩
  · rw [bind_of_error hm] at h
    cases h
  · rw [bind_of_ok hm] at h
    exact ⟨a, s₁, rfl, h⟩

@[simp] theorem pure_eq (a : α) (s : σ) : (pure a : Steps σ α) s = (.ok a, s) := rfl

@[simp] theorem get_eq (s : σ) : (get : Steps σ σ) s = (.ok s, s) := rfl

/-- Two steps that agree wherever `P` holds and keep it agree on lists as well. -/
theorem forM_congr {P : σ → Prop} {f g : α → Steps σ PUnit} :
    ∀ {as : List α}, (∀ a ∈ as, ∀ s, P s → f a s = g a s ∧ P (g a s).2) →
      ∀ s, P s → as.forM f s = as.forM g s
  | [], _, _, _ => rfl
  | a :: as, h, s, hs => by
    obtain ⟨heq, hnext⟩ := h a (by simp) s hs
    simp only [List.forM_eq_forM, List.forM_cons]
    rw [bind_eq, bind_eq, heq]
    generalize g a s = r at hnext ⊢
    rcases r with ⟨_ | _, s'⟩
    · rfl
    · exact forM_congr (fun b hb => h b (List.mem_cons_of_mem _ hb)) s' hnext

/-- A list of steps that do nothing does nothing. -/
theorem forM_eq_self {f : α → Steps σ PUnit} {s : σ} :
    ∀ {as : List α}, (∀ a ∈ as, f a s = (.ok (), s)) → as.forM f s = (.ok (), s)
  | [], _ => rfl
  | a :: as, h => by
    rw [List.forM_eq_forM, List.forM_cons, bind_of_ok (h a (by simp))]
    exact forM_eq_self fun b hb => h b (List.mem_cons_of_mem _ hb)

/-! ## Results -/

section

variable {Q : α → σ → Prop} {E : Failure → σ → Prop} {s : σ}

theorem results_ok {a : α} (h : Q a s) :
    (∀ b s', ((.ok a, s) : Except Failure α × σ) = (.ok b, s') → Q b s') ∧
    ∀ failure s', ((.ok a, s) : Except Failure α × σ) = (.error failure, s') → E failure s' := by
  constructor
  · intro b s' heq
    cases heq
    exact h
  · intro failure s' heq
    cases heq

theorem results_error {failure : Failure} (h : E failure s) :
    (∀ b s', ((.error failure, s) : Except Failure α × σ) = (.ok b, s') → Q b s') ∧
    ∀ failure' s', ((.error failure, s) : Except Failure α × σ) = (.error failure', s') →
      E failure' s' := by
  constructor
  · intro b s' heq
    cases heq
  · intro failure' s' heq
    cases heq
    exact h

end

/-! ## What every run of a step keeps -/

/-- The state after a step is related to the one before, whether the step fails or not. -/
def Moves (R : σ → σ → Prop) (m : Steps σ α) : Prop := ∀ s, R s (m s).2

namespace Moves

variable {R : σ → σ → Prop}

theorem of_eq {m : Steps σ α} (hm : Moves R m) {r : Except Failure α} {s s' : σ}
    (h : m s = (r, s')) : R s s' := by
  have hmove := hm s
  rwa [h] at hmove

theorem pure [Std.Refl R] (a : α) : Moves R (Pure.pure a : Steps σ α) := fun s => refl_of R s

theorem get [Std.Refl R] : Moves R (MonadState.get : Steps σ σ) := fun s => refl_of R s

theorem bind_at [IsTrans σ R] {m : Steps σ α} {f : α → Steps σ β} {s : σ} (hm : R s (m s).2)
    (hf : ∀ a, Moves R (f a)) : R s ((m >>= f) s).2 := by
  rw [bind_eq]
  generalize m s = r at hm ⊢
  rcases r with ⟨_ | a, s'⟩
  · exact hm
  · exact trans_of R hm (hf a s')

theorem bind [IsTrans σ R] {m : Steps σ α} {f : α → Steps σ β} (hm : Moves R m)
    (hf : ∀ a, Moves R (f a)) : Moves R (m >>= f) := fun s => bind_at (hm s) hf

theorem ite {p : Prop} [Decidable p] {m m' : Steps σ α} (hm : Moves R m) (hm' : Moves R m') :
    Moves R (if p then m else m') := by
  split
  · exact hm
  · exact hm'

theorem forM [Std.Refl R] [IsTrans σ R] {f : α → Steps σ PUnit} :
    ∀ (as : List α), (∀ a ∈ as, Moves R (f a)) → Moves R (as.forM f)
  | [], _ => pure _
  | a :: as, h =>
    bind (h a (by simp)) fun _ => forM as fun b hb => h b (List.mem_cons_of_mem _ hb)

end Moves

/-- Steps along a list that succeed do so one by one. -/
theorem ok_of_forM {R : σ → σ → Prop} [Std.Refl R] [IsTrans σ R] {f : α → Steps σ PUnit} :
    ∀ {as : List α} {s s' : σ}, (∀ a ∈ as, Moves R (f a)) → as.forM f s = (.ok (), s') →
      ∀ a ∈ as, ∃ s₁ s₂, R s s₁ ∧ f a s₁ = (.ok (), s₂)
  | [], _, _, _, _ => by simp
  | a :: as, s, s', hf, h => by
    obtain ⟨_, s₁, hfirst, hrest⟩ := ok_of_bind h
    have hmove : R s s₁ := (hf a (by simp)).of_eq hfirst
    intro b hb
    rcases List.mem_cons.1 hb with rfl | hb
    · exact ⟨s, s₁, refl_of R s, hfirst⟩
    · have hrest' := ok_of_forM (fun c hc => hf c (List.mem_cons_of_mem _ hc)) hrest b hb
      obtain ⟨s₂, s₃, h₁, h₂⟩ := hrest'
      exact ⟨s₂, s₃, trans_of R hmove h₁, h₂⟩

/-! ## Steps that do not fail -/

/-- Where `P` holds the step succeeds, and `Q` holds of its result and of the state after it. -/
def Succeeds (P : σ → Prop) (m : Steps σ α) (Q : α → σ → Prop) : Prop :=
  ∀ s, P s → ∃ a s', m s = (.ok a, s') ∧ Q a s'

namespace Succeeds

variable {P : σ → Prop} {Q : α → σ → Prop}

theorem pure {a : α} (h : ∀ s, P s → Q a s) : Succeeds P (Pure.pure a : Steps σ α) Q :=
  fun s hs => ⟨a, s, rfl, h s hs⟩

theorem bind_at {m : Steps σ α} {f : α → Steps σ β} {Q' : β → σ → Prop} {s : σ}
    (hm : ∃ a s', m s = (.ok a, s') ∧ Q a s') (hf : ∀ a, Succeeds (Q a) (f a) Q') :
    ∃ b s', (m >>= f) s = (.ok b, s') ∧ Q' b s' := by
  obtain ⟨a, s', heq, hq⟩ := hm
  obtain ⟨b, s'', heq', hq'⟩ := hf a s' hq
  exact ⟨b, s'', by rw [bind_of_ok heq, heq'], hq'⟩

theorem bind {m : Steps σ α} {f : α → Steps σ β} {Q' : β → σ → Prop} (hm : Succeeds P m Q)
    (hf : ∀ a, Succeeds (Q a) (f a) Q') : Succeeds P (m >>= f) Q' :=
  fun s hs => bind_at (hm s hs) hf

theorem weaken {m : Steps σ α} {P' : σ → Prop} {Q' : α → σ → Prop} (hm : Succeeds P m Q)
    (hP : ∀ s, P' s → P s) (hQ : ∀ a s, Q a s → Q' a s) : Succeeds P' m Q' := by
  intro s hs
  obtain ⟨a, s', heq, hq⟩ := hm s (hP s hs)
  exact ⟨a, s', heq, hQ a s' hq⟩

theorem ite {p : Prop} [Decidable p] {m m' : Steps σ α} (hm : p → Succeeds P m Q)
    (hm' : ¬p → Succeeds P m' Q) : Succeeds P (if p then m else m') Q := by
  split
  · rename_i h
    exact hm h
  · rename_i h
    exact hm' h

theorem forM {f : α → Steps σ PUnit} :
    ∀ (as : List α), (∀ a ∈ as, Succeeds P (f a) fun _ => P) → Succeeds P (as.forM f) fun _ => P
  | [], _ => pure fun _ h => h
  | a :: as, h =>
    bind (h a (by simp)) fun _ => forM as fun b hb => h b (List.mem_cons_of_mem _ hb)

end Succeeds

end Steps

end Adventure
