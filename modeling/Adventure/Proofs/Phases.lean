import Adventure.Play.Session
import Adventure.Proofs.IdleCommands

/-!
# What a session waits for

A game that has been opened waits for a command (`Session.opening_ok`), and a command or an answer
may lead to a choice that is waited for. In either case the play is ready (`Play.Ready`): everything
has been shown and the game goes on (`Act.poised_execute`, `Act.poised_answer`). The end of the
input ends a conversation and then the session, so after all inputs a session is over
(`Session.over_run`).
-/

namespace Adventure

open Steps Act

/-- What the player is asked for. -/
def Phase.prompt? : Phase → Option Prompt
  | .command => some .command
  | .choice _ => some .choice
  | .over _ => none

theorem Phase.prompt?_eq_none {phase : Phase} :
    phase.prompt? = none ↔ ∃ failure, phase = .over failure := by
  rcases phase with _ | d | failure <;> simp [prompt?]

/-- Nothing waits to be shown and the game goes on. -/
def Play.Ready (p : Play) : Prop := p.view = [] ∧ p.status = .running

/-- Where the act comes to wait for a choice, the play is ready. -/
def Act.Poised (m : Act (Option Dialogue)) : Prop :=
  ∀ p d p', m p = (.ok (some d), p') → p'.Ready

namespace Act

theorem poised_none : Poised (pure none) := by
  intro p d p' h
  cases h

theorem Poised.bind {α : Type} {m : Act α} {f : α → Act (Option Dialogue)}
    (hf : ∀ a, Poised (f a)) : Poised (m >>= f) := by
  intro p d p' h
  obtain ⟨a, p₁, -, h⟩ := ok_of_bind h
  exact hf a p₁ d p' h

theorem Poised.ite {c : Prop} [Decidable c] {m m' : Act (Option Dialogue)} (hm : Poised m)
    (hm' : Poised m') : Poised (if c then m else m') := by
  split
  · exact hm
  · exact hm'

theorem poised_close (d : Dialogue) : Poised d.close := by
  unfold Dialogue.close
  cases d.farewell with
  | none => exact .bind fun _ => poised_none
  | some farewell => exact .bind fun _ => .bind fun _ => poised_none

/-- A conversation shows its choices, and only while the game goes on. -/
theorem poised_proceed (d : Dialogue) : Poised d.proceed := by
  intro p d' p' h
  rw [Dialogue.proceed, bind_of_ok (get_eq p)] at h
  by_cases hover : p.isOver = true
  · rw [if_pos hover] at h
    exact poised_close d p d' p' h
  · rw [if_neg hover] at h
    obtain ⟨offered, p₁, hoffered, h⟩ := ok_of_bind h
    obtain rfl : p = p₁ := congrArg Prod.snd hoffered
    split at h
    · exact poised_close d p d' p' h
    · obtain ⟨choices, p₁, hchoices, h⟩ := ok_of_bind h
      obtain rfl : p = p₁ := congrArg Prod.snd hchoices
      cases h
      exact ⟨rfl, by simpa [Play.isOver, Play.say] using hover⟩

theorem poised_begin (conversation : EntityId .conversation) (speaker : String)
    (after : List (EntityId .action)) :
    Poised (Dialogue.begin conversation speaker after) := by
  refine .bind fun c => ?_
  cases c.greeting with
  | none => exact .bind fun _ => poised_proceed _
  | some greeting => exact .bind fun _ => .bind fun _ => poised_proceed _

theorem poised_answer (d : Dialogue) (input : Input) : Poised (d.answer input) := by
  cases input with
  | broken text => intro p d' p' h; cases h
  | ended | interrupt => exact poised_close d
  | line line =>
    rw [Dialogue.answer]
    cases chosen? d.offered line with
    | some choice => exact .bind fun _ => poised_proceed _
    | none => exact .bind fun _ => .bind fun _ => poised_proceed d

theorem poised_talkWith (command : Command) (id : EntityId .person) :
    Poised (talkWith command id) := by
  refine .bind fun person => .bind fun accepted => .ite (.bind fun texts => .ite ?_ ?_) ?_
  · cases person.talk.conversation with
    | none => exact .bind fun _ => .bind fun _ => poised_none
    | some conversation => exact poised_begin _ _ _
  · exact .bind fun _ => .bind fun _ => poised_none
  · exact .bind fun _ => poised_none

theorem poised_talkTo (command : Command) : Poised (talkTo command) := by
  refine .bind fun found => ?_
  split
  · exact poised_talkWith command _
  · exact .bind fun _ => poised_none

theorem poised_carryOut (command : Command) : Poised (carryOut command) := by
  unfold carryOut
  cases command.verb with
  | talkTo => exact poised_talkTo command
  | _ => exact .bind fun _ => poised_none

theorem poised_execute (line : String) : Poised (execute line) := by
  refine .bind fun command => ?_
  cases command with
  | none => exact .bind fun _ => .bind fun _ => poised_none
  | some command => exact poised_carryOut command

end Act

/-! ## Openings -/

/-- The game goes on after `q` if it does so after `p`. -/
def Play.SameStatus (p q : Play) : Prop := q.status = p.status

theorem Act.describe_status : Moves Play.SameStatus describe := fun p => by
  obtain ⟨items, hitems⟩ := says_describe p
  rw [hitems, Play.SameStatus, Play.say]

namespace Session

theorem ofAct_ok {act : Act Phase} {p p' : Play} {phase : Phase} (h : act p = (.ok phase, p')) :
    ofAct act p = ⟨p', phase⟩ := by
  rw [ofAct, h]

theorem ofAct_error {act : Act Phase} {p p' : Play} {failure : Failure}
    (h : act p = (.error failure, p')) : ofAct act p = ⟨p', .over (some failure)⟩ := by
  rw [ofAct, h]

variable {p q : Play}

/-- The opening of a game shows everything that it has to say and ends nothing. -/
theorem opening_ok {phase : Phase} (h : opening p = (.ok phase, q)) :
    phase = .command ∧ q.view = [] ∧ q.status = p.status := by
  have hlast : ∀ {p : Play}, (do describe; display; return .command : Act Phase) p
      = (.ok phase, q) → phase = .command ∧ q.view = [] ∧ q.status = p.status := by
    intro p h
    obtain ⟨_, p₁, hdescribe, h⟩ := ok_of_bind h
    have hstatus : (describe p).2.status = p.status := describe_status p
    rw [hdescribe] at hstatus
    cases h
    exact ⟨rfl, rfl, hstatus⟩
  obtain ⟨w, p₁, hworld, h⟩ := ok_of_bind h
  cases hworld
  split at h
  · exact hlast h
  · obtain ⟨_, p₂, hpush, h⟩ := ok_of_bind h
    cases hpush
    have hend := hlast h
    exact hend

/-- A game that has been opened waits for a command. -/
theorem start_command (w : World) (store : Store) :
    (start w store).phase = .command ∨ ∃ failure, (start w store).phase = .over (some failure) := by
  rw [start, ofAct]
  rcases hopening : opening { world := w, store } with ⟨failure | phase, p⟩
  · exact .inr ⟨failure, rfl⟩
  · exact .inl (opening_ok hopening).1

/-! ## The end of the input -/

/-- A conversation that is broken off does not wait any more. -/
theorem close_none {d : Dialogue} {r : Option Dialogue} (h : d.close p = (.ok r, q)) :
    r = none := by
  have hlast : ∀ {p : Play}, (do triggerAll d.after; return none : Act (Option Dialogue)) p
      = (.ok r, q) → r = none := by
    intro p h
    obtain ⟨-, p₁, -, h⟩ := ok_of_bind h
    cases h
    rfl
  unfold Dialogue.close at h
  cases hfarewell : d.farewell with
  | none =>
    rw [hfarewell] at h
    exact hlast h
  | some farewell =>
    rw [hfarewell] at h
    obtain ⟨-, p₁, -, h⟩ := ok_of_bind h
    exact hlast h

theorem finishCommand_ok {phase : Phase} (h : finishCommand p = (.ok phase, q)) :
    phase = .command ∨ phase = .over none := by
  obtain ⟨-, p₁, -, h⟩ := ok_of_bind h
  obtain ⟨-, p₂, -, h⟩ := ok_of_bind h
  cases h
  cases q.isOver with
  | true => exact .inr rfl
  | false => exact .inl rfl

/-- At the main prompt the end of the input ends the session. -/
theorem over_step_command (p : Play) :
    ∃ failure, (step ⟨p, .command⟩ .ended).phase = .over failure := by
  rw [step_eq]
  rcases htake : takeInput .ended .command p with ⟨failure | phase, q⟩
  · exact ⟨some failure, by rw [ofAct_error htake]⟩
  · refine ⟨none, ?_⟩
    rw [ofAct_ok htake]
    obtain ⟨-, p₁, -, h⟩ := ok_of_bind htake
    obtain ⟨-, p₂, -, h⟩ := ok_of_bind h
    obtain ⟨-, p₃, -, h⟩ := ok_of_bind h
    obtain ⟨-, p₄, -, h⟩ := ok_of_bind h
    cases h
    rfl

/-- In a conversation it leads back to the main prompt at least. -/
theorem step_choice (p : Play) (d : Dialogue) :
    (step ⟨p, .choice d⟩ .ended).phase = .command ∨
      ∃ failure, (step ⟨p, .choice d⟩ .ended).phase = .over failure := by
  rw [step_eq]
  rcases htake : takeInput .ended (.choice d) p with ⟨failure | phase, q⟩
  · exact .inr ⟨some failure, by rw [ofAct_error htake]⟩
  · rw [ofAct_ok htake]
    obtain ⟨r, p₁, hhear, h⟩ := ok_of_bind htake
    obtain ⟨-, p₂, -, hclose⟩ := ok_of_bind hhear
    obtain rfl := close_none hclose
    rcases finishCommand_ok h with rfl | rfl
    · exact .inl rfl
    · exact .inr ⟨none, rfl⟩

/-- Where the input has ended the session is over. -/
theorem over_run (s : Session) (inputs : List Input) :
    ∃ failure, (s.run inputs).phase = .over failure := by
  rw [run, List.foldl_append]
  generalize inputs.foldl step s = s₀
  change ∃ failure, ((s₀.step .ended).step .ended).phase = .over failure
  obtain ⟨p, _ | d | failure⟩ := s₀
  · obtain ⟨failure, hover⟩ := over_step_command p
    generalize step ⟨p, .command⟩ .ended = s at hover ⊢
    obtain ⟨q, phase⟩ := s
    obtain rfl : phase = .over failure := hover
    exact ⟨failure, rfl⟩
  · have hstep := step_choice p d
    generalize step ⟨p, .choice d⟩ .ended = s at hstep ⊢
    obtain ⟨q, phase⟩ := s
    rcases hstep with hcommand | ⟨failure, hover⟩
    · obtain rfl : phase = .command := hcommand
      exact over_step_command q
    · obtain rfl : phase = .over failure := hover
      exact ⟨failure, rfl⟩
  · exact ⟨failure, rfl⟩

end Session

end Adventure
