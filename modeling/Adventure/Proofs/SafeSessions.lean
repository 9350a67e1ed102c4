import Adventure.Proofs.Phases
import Adventure.Proofs.SafeCommands
import Adventure.Proofs.SoundStories

/-!
# Sessions that do not fail

A session is in order (`Session.Sane`) if its play is orderly and it waits for a command, for a
choice among open ones, or has ended without a failure and with the game. A session in order stays
so whatever the player sends (`Session.Sane.step`), and the end of the input brings it to its end
(`Session.Sane.run`). The session of a story that loads is in order from the beginning, so it never
fails (`Session.ends_of_load`).
-/

namespace Adventure

open World Steps

namespace Session

variable {base : World} {p : Play} {s : Session}

/-- What a session waits for suits its play. -/
def Suits (base : World) (p : Play) : Phase → Prop
  | .command => True
  | .choice d => d.Waits base p.world
  | .over failure => failure = none ∧ p.status ≠ .running

/-- A session that has not failed and is not going to fail. -/
structure Sane (base : World) (s : Session) : Prop where
  orderly : Orderly base s.play
  suits : Suits base s.play s.phase

/-- An act that does not fail in an orderly play and leads to something that suits the play. -/
def Lands (base : World) (p : Play) (act : Act Phase) : Prop :=
  ∃ phase p', act p = (.ok phase, p') ∧ Orderly base p' ∧ Suits base p' phase

theorem Lands.sane {act : Act Phase} (h : Lands base p act) : Sane base (ofAct act p) := by
  obtain ⟨phase, p', heq, hp', hsuits⟩ := h
  rw [ofAct, heq]
  exact ⟨hp', hsuits⟩

/-! ## Commands -/

theorem finishCommand_eq (hp : Orderly base p) :
    ∃ p', finishCommand p = (.ok (if p.isOver then .over none else .command), p') ∧
      Orderly base p' ∧ p'.status = p.status := by
  obtain ⟨p₁, hdisplay, hp₁, hstatus⟩ :
      ∃ p₁, Act.display p = (.ok (), p₁) ∧ Orderly base p₁ ∧ p₁.status = p.status :=
    ⟨_, rfl, hp.congr rfl rfl rfl, rfl⟩
  refine ⟨{ p₁ with log := .store .commit p₁.world none :: p₁.log }, ?_,
    hp₁.congr rfl rfl rfl, hstatus⟩
  rw [finishCommand, bind_of_ok hdisplay, bind_of_ok (Act.tell_eq hp₁ .commit),
    bind_of_ok (get_eq _)]
  have hover : ({ p₁ with log := .store .commit p₁.world none :: p₁.log } : Play).isOver
      = p.isOver := by
    rw [Play.isOver, Play.isOver, hstatus]
  simp only [hover]
  cases p.isOver <;> rfl

theorem lands_finishCommand (hp : Orderly base p) : Lands base p finishCommand := by
  obtain ⟨p', heq, hp', hstatus⟩ := finishCommand_eq hp
  refine ⟨_, p', heq, hp', ?_⟩
  split
  · rename_i hover
    exact ⟨rfl, by simpa [Play.isOver, hstatus] using hover⟩
  · trivial

theorem lands_continueCommand {m : Act (Option Dialogue)}
    (hm : ∃ r p', m p = (.ok r, p') ∧ Orderly base p' ∧ ∀ d, r = some d → d.Waits base p'.world) :
    Lands base p (m >>= continueCommand) := by
  obtain ⟨r, p', heq, hp', hwaits⟩ := hm
  rw [Lands, bind_of_ok heq]
  cases r with
  | none => exact lands_finishCommand hp'
  | some d => exact ⟨.choice d, p', rfl, hp', hwaits d rfl⟩

/-- The end of the input ends the game. -/
theorem takeCommand_ended (hp : Orderly base p) :
    ∃ p', takeCommand .ended p = (.ok (.over none), p') ∧ Orderly base p' ∧
      p'.status = .quit := by
  obtain ⟨p₁, hexit, hp₁, hquit⟩ :
      ∃ p₁, Act.exit p = (.ok (), p₁) ∧ Orderly base p₁ ∧ p₁.status = .quit :=
    ⟨_, rfl, hp.congr rfl rfl rfl, rfl⟩
  obtain ⟨p₂, hdisplay, hp₂, hstatus⟩ :
      ∃ p₂, Act.display p₁ = (.ok (), p₂) ∧ Orderly base p₂ ∧ p₂.status = p₁.status :=
    ⟨_, rfl, hp₁.congr rfl rfl rfl, rfl⟩
  refine ⟨{ p₂ with log := .store .commit p₂.world none :: p₂.log }, ?_, hp₂.congr rfl rfl rfl,
    hstatus.trans hquit⟩
  rw [takeCommand, bind_of_ok hexit, bind_of_ok hdisplay, bind_of_ok (Act.tell_eq hp₂ .commit)]
  rfl

theorem lands_takeCommand (hs : base.Sound) {input : Input} (hp : Orderly base p)
    (hinput : ∀ text, input ≠ .broken text) : Lands base p (takeCommand input) := by
  cases input with
  | broken text => exact absurd rfl (hinput text)
  | ended =>
    obtain ⟨p', heq, hp', hquit⟩ := takeCommand_ended hp
    exact ⟨_, p', heq, hp', rfl, by rw [hquit]; exact nofun⟩
  | interrupt =>
    obtain ⟨phase, p', heq, rfl, hp'⟩ := ((Act.safe_push _).bind fun _ _ =>
      Act.safe_display.bind fun _ _ => .pure rfl :
        Act.Yields base (takeCommand .interrupt) (· = .command)) p hp
    exact ⟨_, p', heq, hp', trivial⟩
  | line line =>
    rw [takeCommand]
    by_cases hblank : line.toList.all Unicode.isWhitespace = true
    · rw [if_pos hblank]
      exact ⟨.command, p, rfl, hp, trivial⟩
    · rw [if_neg hblank]
      exact lands_continueCommand (Act.leads_execute hs line p hp)

theorem lands_takeInput (hs : base.Sound) {input : Input} (h : Sane base s)
    (hinput : ∀ text, input ≠ .broken text) : Lands base s.play (takeInput input s.phase) := by
  have hsuits := h.suits
  rcases hphase : s.phase with _ | d | failure
  · have hlogged : Orderly base { s.play with log := .read .command input :: s.play.log } :=
      h.orderly.congr rfl rfl rfl
    exact lands_takeCommand hs hlogged hinput
  · rw [hphase] at hsuits
    exact lands_continueCommand (Act.leads_hear hs h.orderly hsuits hinput)
  · rw [hphase] at hsuits
    exact ⟨_, s.play, rfl, h.orderly, hsuits⟩

/-! ## Inputs -/

/-- A session in order is so after any input that does not break. -/
theorem Sane.step (hs : base.Sound) {input : Input} (h : Sane base s)
    (hinput : ∀ text, input ≠ .broken text) : Sane base (s.step input) := by
  rw [step_eq]
  exact (lands_takeInput hs h hinput).sane

theorem Sane.foldl (hs : base.Sound) :
    ∀ (inputs : List Input) {s : Session}, (∀ input ∈ inputs, ∀ text, input ≠ .broken text) →
      Sane base s → Sane base (inputs.foldl Session.step s)
  | [], _, _, h => h
  | input :: inputs, _, hinputs, h =>
    Sane.foldl hs inputs (fun i hi => hinputs i (List.mem_cons_of_mem _ hi))
      (h.step hs (hinputs input (by simp)))

/-- After all inputs a session in order is over, without a failure and with the game. -/
theorem Sane.run (hs : base.Sound) (h : Sane base s) {inputs : List Input}
    (hinputs : ∀ input ∈ inputs, ∀ text, input ≠ .broken text) :
    (s.run inputs).phase = .over none ∧ (s.run inputs).play.status ≠ .running := by
  have hended : ∀ input ∈ inputs ++ [.ended, .ended], ∀ text, input ≠ .broken text := by
    rintro input hmem text rfl
    exact hinputs _ (by simpa using hmem) text rfl
  have hsane : Sane base (s.run inputs) := Sane.foldl hs _ hended h
  obtain ⟨failure, hover⟩ := over_run s inputs
  have hsuits := hsane.suits
  rw [hover] at hsuits
  exact ⟨hover.trans (congrArg Phase.over hsuits.1), hsuits.2⟩

/-- The game opens in order. -/
theorem sane_start (hs : base.Sound) {w : World} (hw : Intact base w) {store : Store}
    (haccepts : ∀ calls call, store.refusal? calls call = none) : Sane base (start w store) := by
  have hopening : Act.Yields base opening (· = .command) := by
    refine Act.yields_world.bind fun w _ => (Act.safe_push _).whenNot ?_
    refine (Act.safe_describe hs).bind fun _ _ => Act.safe_display.bind fun _ _ => .pure rfl
  have hplay : Orderly base { world := w, store } := ⟨hw, haccepts, PatternCache.formed_empty⟩
  obtain ⟨phase, p', heq, rfl, hp'⟩ := hopening _ hplay
  exact Lands.sane ⟨_, p', heq, hp', trivial⟩

theorem Sane.failure?_eq_none (h : Sane base s) : s.failure? = none := by
  have hsuits := h.suits
  unfold failure?
  rcases hphase : s.phase with _ | d | failure
  · rfl
  · rfl
  · rw [hphase] at hsuits
    exact hsuits.1

/-- A game that loads can be played to its end. Whatever lines and interrupts the player sends, no
command, cascade or conversation fails on the way, and when the input has ended the game is over or
has been left. The input must not break and the store must accept every call. -/
theorem ends_of_load {story : Story} {w : World} (hd : story.DistinctIds)
    (hload : World.load story = .ok w) {store : Store}
    (haccepts : ∀ calls call, store.refusal? calls call = none) {inputs : List Input}
    (hinputs : ∀ input ∈ inputs, ∀ text, input ≠ .broken text) :
    (∀ n, ((inputs.take n).foldl step (start w store)).failure? = none) ∧
    ((start w store).run inputs).phase = .over none ∧
    (((start w store).run inputs).play.status = .gameOver ∨
      ((start w store).run inputs).play.status = .quit) := by
  have hloaded := loaded_of_load hload
  have hs := hloaded.sound_ofStory hd
  have hstart : Sane (ofStory story) (start w store) :=
    sane_start hs (hloaded.intact hd) haccepts
  obtain ⟨hphase, hstatus⟩ := hstart.run hs hinputs
  refine ⟨fun n => ?_, hphase, ?_⟩
  · have htake : ∀ input ∈ inputs.take n, ∀ text, input ≠ .broken text := fun input hmem =>
      hinputs input (List.mem_of_mem_take hmem)
    exact (Sane.foldl hs _ htake hstart).failure?_eq_none
  · generalize ((start w store).run inputs).play.status = status at hstatus ⊢
    cases status with
    | running => exact absurd rfl hstatus
    | gameOver => exact .inl rfl
    | quit => exact .inr rfl

theorem ends_of_load_gateStory : ∃ w, World.load Story.gateStory = .ok w ∧
    ((start w .accepting).run [.line "talk to guard", .interrupt, .line "take lamp"]).phase
      = .over none := by
  obtain ⟨w, hload⟩ := load_gateStory
  refine ⟨w, hload, (ends_of_load Story.distinctIds_gateStory hload (fun _ _ => rfl) ?_).2.1⟩
  simp

end Session

end Adventure
