import Adventure.Play.Saved
import Adventure.Proofs.Answers
import Adventure.Proofs.Developments
import Adventure.Proofs.Phases

/-!
# What a store is told

The store is told of every effect but not of choices that are withdrawn. So from one commit to the
next either it is told of some effect, or nothing in the world changes but that choices are
withdrawn (`Turns.told`, `Answered.told`). What can come of one step of a session, `Carries` lists:
it waits for a choice, no command was given, it commits, or it fails.
-/

namespace Adventure

open World

/-! ## Commits in the course of a play -/

namespace Play

/-- The copy that a store keeps which accepts everything. -/
def copy (p : Play) : Copy := Copy.ofEvents p.log.reverse

/-- The store has committed the world `now` after some events. -/
def Commits (p : Play) (before : List Event) (now : World) : Prop :=
  before ++ [.store .commit now none] <+: p.log.reverse

variable {p p' : Play} {e : Event}

theorem copy_cons (h : p'.log = e :: p.log) : p'.copy = p.copy.after e := by
  simp [copy, Copy.ofEvents, h]

theorem commits_cons (h : p'.log = e :: p.log) {before : List Event} {now : World} :
    p'.Commits before now ↔
      before = p.log.reverse ∧ e = .store .commit now none ∨ p.Commits before now := by
  rw [Commits, Commits, h, List.reverse_cons, List.prefix_concat_iff, ← List.concat_eq_append,
    ← List.concat_eq_append, List.concat_inj, eq_comm (a := e)]

end Play

/-- From one play to a later one the store is told of `n` effects and of no commit, and it accepts
all of them. -/
structure Told (n : Nat) (p p' : Play) : Prop where
  store : p'.store = p.store
  calls : p'.calls = List.replicate n .flush ++ p.calls
  copy : p'.copy = ⟨p.copy.saved, p.copy.stale || decide (0 < n)⟩
  commits : ∀ before now, p'.Commits before now ↔ p.Commits before now

namespace Told

variable {p p₁ p' : Play}

theorem refl (p : Play) : Told 0 p p := ⟨rfl, rfl, by simp, fun _ _ => .rfl⟩

theorem trans {n m : Nat} (h : Told n p p₁) (h' : Told m p₁ p') : Told (n + m) p p' where
  store := h'.store.trans h.store
  calls := by
    rw [h'.calls, h.calls, ← List.append_assoc, List.replicate_append_replicate, Nat.add_comm]
  copy := by
    rw [h'.copy, h.copy, Bool.or_assoc, ← Bool.decide_or]
    congr 2
    simp only [decide_eq_decide]
    omega
  commits := fun before now => (h'.commits before now).trans (h.commits before now)

theorem count_commit {n : Nat} (h : Told n p p') :
    p'.calls.count .commit = p.calls.count .commit := by
  simp [h.calls, List.count_append, List.count_replicate]

theorem count_flush {n : Nat} (h : Told n p p') :
    p'.calls.count .flush = n + p.calls.count .flush := by
  simp [h.calls, List.count_append]

end Told

theorem told_event {p p' : Play} {e : Event} (hstore : p'.store = p.store)
    (hlog : p'.log = e :: p.log) (hcall : e.call? = none) : Told 0 p p' := by
  have hafter : p.copy.after e = p.copy := by
    cases e with
    | store call w refusal => cases hcall
    | _ => rfl
  refine ⟨hstore, by simp [Play.calls, hlog, hcall], by simp [Play.copy_cons hlog, hafter], ?_⟩
  intro before now
  rw [Play.commits_cons hlog, or_iff_right]
  rintro ⟨-, rfl⟩
  cases hcall

theorem told_flush {p p' : Play} {w : World} (hstore : p'.store = p.store)
    (hlog : p'.log = .store .flush w none :: p.log) : Told 1 p p' := by
  refine ⟨hstore, by simp [Play.calls, hlog, Event.call?],
    by simp [Play.copy_cons hlog, Copy.after], ?_⟩
  intro before now
  rw [Play.commits_cons hlog, or_iff_right]
  rintro ⟨-, heq⟩
  cases heq

theorem Aside.told {p p' : Play} (h : Aside p p') : Told 0 p p' := by
  obtain ⟨-, hstore, events, hlog, hcalls⟩ := h
  induction events generalizing p' with
  | nil =>
    exact ⟨hstore, by simp [Play.calls, hlog], by simp [Play.copy, hlog],
      by simp [Play.Commits, hlog]⟩
  | cons e events ih =>
    have hrest : Told 0 p { p with log := events ++ p.log } :=
      ih rfl rfl fun e' he' => hcalls e' (List.mem_cons_of_mem _ he')
    exact hrest.trans (told_event (e := e) hstore hlog (hcalls e List.mem_cons_self))

/-- Where the store is not told of anything, turns leave the world as it is. -/
theorem Turns.told {p p' : Play} (h : Turns p p') :
    ∃ n, Told n p p' ∧ (n = 0 → p'.world = p.world) := by
  induction h with
  | refl => exact ⟨0, .refl p, fun _ => rfl⟩
  | tail _ hturn ih =>
    obtain ⟨n, htold, hworld⟩ := ih
    cases hturn with
    | aside aside => exact ⟨n, htold.trans aside.told, fun hn => aside.world.trans (hworld hn)⟩
    | deed _ _ _ _ _ store log => exact ⟨n + 1, htold.trans (told_flush store log), nofun⟩

/-! ## Choices that are withdrawn -/

/-- Whether a choice is on offer in a world. -/
def World.Offers (w : World) (id : EntityId .choice) : Prop :=
  ∃ choice : Choice, w.get? id = some choice ∧ choice.enabled = true

/-- A world in which choices have been withdrawn, or none. -/
structure Wanes (withdrawn : Prop) (w w' : World) : Prop where
  same : ¬withdrawn → w' = w
  gone : withdrawn → ∃ id, w.Offers id ∧ ¬w'.Offers id
  fewer : ∀ id, w'.Offers id → w.Offers id

namespace Wanes

variable {a b : Prop} {w w₁ w' : World}

theorem refl (ha : ¬a) (w : World) : Wanes a w w :=
  ⟨fun _ => rfl, fun h => absurd h ha, fun _ h => h⟩

theorem trans (h : Wanes a w w₁) (h' : Wanes b w₁ w') : Wanes (a ∨ b) w w' where
  same := by
    intro hnone
    rw [not_or] at hnone
    exact (h'.same hnone.2).trans (h.same hnone.1)
  gone := by
    rintro (ha | hb)
    · obtain ⟨id, hoffers, hgone⟩ := h.gone ha
      exact ⟨id, hoffers, fun hlater => hgone (h'.fewer id hlater)⟩
    · obtain ⟨id, hoffers, hgone⟩ := h'.gone hb
      exact ⟨id, h.fewer id hoffers, hgone⟩
  fewer := fun id hoffers => h.fewer id (h'.fewer id hoffers)

theorem withdraw {id : EntityId .choice} {choice : Choice} (hfound : w.get? id = some choice)
    (henabled : choice.enabled = true) (ha : a) :
    Wanes a w (w.put id { choice with enabled := false }) where
  same := fun hnone => absurd ha hnone
  gone := fun _ => ⟨id, ⟨choice, hfound, henabled⟩, by simp [World.Offers]⟩
  fewer := by
    rintro other ⟨c, hc, hoffered⟩
    rw [get?_put] at hc
    split at hc
    · obtain rfl := Option.some.inj hc
      cases hoffered
    · exact ⟨c, hc, hoffered⟩

theorem ne (h : Wanes a w w') (ha : a) : w' ≠ w := by
  rintro rfl
  obtain ⟨id, hoffers, hgone⟩ := h.gone ha
  exact hgone hoffers

end Wanes

/-- Where the store is not told of anything, an answer does nothing but withdraw a choice. -/
theorem Answered.told {W : EntityId .choice → Prop} {p p' : Play} (h : Answered W p p') :
    ∃ n, Told n p p' ∧ (n = 0 → Wanes (∃ id, W id) p.world p'.world) := by
  obtain ⟨hoffered, p₁, p₂, hbefore, hfades, hafter⟩ := h
  obtain ⟨n, htold, hworld⟩ := hbefore.told
  obtain ⟨m, htold', hworld'⟩ := hafter.told
  cases hfades with
  | stay none =>
    refine ⟨n + m, htold.trans htold', fun hzero => ?_⟩
    rw [hworld' (by omega), hworld (by omega)]
    exact .refl (fun ⟨id, hid⟩ => none id hid) _
  | @withdraw _ id chosen withdrawal =>
    obtain ⟨choice, hfound, rfl⟩ := withdrawal
    have hsilent :
        Told 0 p₁ { p₁ with world := p₁.world.put id { choice with enabled := false } } :=
      ⟨rfl, rfl, by simp [Play.copy], fun _ _ => .rfl⟩
    refine ⟨n + 0 + m, (htold.trans hsilent).trans htold', fun hzero => ?_⟩
    rw [hworld' (by omega)]
    obtain ⟨choice', hfound', henabled⟩ := hoffered id chosen
    rw [hworld (by omega)] at hfound ⊢
    obtain rfl : choice' = choice := Option.some.inj (hfound'.symm.trans hfound)
    exact .withdraw hfound henabled ⟨id, chosen⟩

theorem Stop.told {p p' : Play} (h : Stop p p') (haccepts : p.store = .accepting) :
    Told 0 p p' := by
  cases h with
  | halt => exact .refl p
  | failed => exact ⟨rfl, rfl, by simp [Play.copy], fun _ _ => .rfl⟩
  | refused _ _ refused =>
    rw [haccepts] at refused
    cases refused

/-! ## Steps of a session -/

namespace Session

open Steps Act

/-- With an input a choice is made that can be made only once. -/
def Withdraws (s : Session) (input : Input) : Prop :=
  ∃ d id, s.phase = .choice d ∧ d.Withdraws s.play.world input id

/-- What may come of an input where the store accepts everything. -/
inductive Carries (s : Session) (input : Input) : Session → Prop
  /-- The session waits for a choice. -/
  | waits {n : Nat} {p : Play} {d : Dialogue} (told : Told n s.play p)
      (wanes : n = 0 → Wanes (s.Withdraws input) s.play.world p.world) :
      Carries s input ⟨p, .choice d⟩
  /-- No command was given. -/
  | idles {p : Play} (idle : s.phase = .command) (told : Told 0 s.play p)
      (world : p.world = s.play.world) : Carries s input ⟨p, .command⟩
  /-- A command is done. -/
  | commits {n : Nat} {p : Play} {phase : Phase} (told : Told n s.play p)
      (wanes : n = 0 → Wanes (s.Withdraws input) s.play.world p.world)
      (done : ∀ d, phase ≠ .choice d) :
      Carries s input ⟨{ p with log := .store .commit p.world none :: p.log }, phase⟩
  | fails {n : Nat} {p : Play} {failure : Failure} (told : Told n s.play p) :
      Carries s input ⟨p, .over (some failure)⟩

variable {s : Session} {input : Input} {p : Play}

theorem tell_accepting (h : p.store = .accepting) (call : StoreCall) :
    tell call p = (.ok (), { p with log := .store call p.world none :: p.log }) := by
  simp [Act.tell, h, Store.accepting]

theorem finishCommand_course (h : p.store = .accepting) :
    ∃ p₁ phase, Aside p p₁ ∧ (∀ d, phase ≠ .choice d) ∧
      finishCommand p = (.ok phase, { p₁ with log := .store .commit p₁.world none :: p₁.log }) := by
  have haside := Made.display.aside p
  obtain ⟨p₁, hdisplay⟩ : ∃ p₁, display p = (.ok (), p₁) := ⟨_, rfl⟩
  rw [hdisplay] at haside
  rw [finishCommand, bind_of_ok hdisplay,
    bind_of_ok (tell_accepting (haside.store.trans h) .commit), bind_of_ok (get_eq _)]
  refine ⟨p₁, _, haside, fun d => ?_, rfl⟩
  split <;> exact nofun

/-- What comes of an input that has been carried out. -/
theorem carries_continue {m : Act (Option Dialogue)} {W : EntityId .choice → Prop}
    (hbefore : Aside s.play p) (hstore : s.play.store = .accepting) (hm : Answers W m p)
    (hW : (∃ id, W id) ↔ s.Withdraws input) :
    Carries s input (ofAct (m >>= continueCommand) p) := by
  have haccepts : p.store = .accepting := hbefore.store.trans hstore
  rcases hmp : m p with ⟨failure | r, p'⟩
  · obtain ⟨p₁, hcourse, hstop⟩ := hm.2 _ _ hmp
    obtain ⟨n, htold⟩ : ∃ n, Told n p p₁ := by
      rcases hcourse with hturns | hanswered
      · exact hturns.told.imp fun n h => h.1
      · exact hanswered.told.imp fun n h => h.1
    have hlast := hstop.told (htold.store.trans haccepts)
    rw [ofAct, bind_of_error hmp]
    exact .fails ((hbefore.told.trans htold).trans hlast)
  · obtain ⟨n, htold, hwanes⟩ := (hm.1 _ _ hmp).told
    rw [hbefore.world, hW] at hwanes
    have htold' : Told n s.play p' := by simpa using hbefore.told.trans htold
    rw [ofAct, bind_of_ok hmp]
    cases r with
    | some d => exact .waits htold' hwanes
    | none =>
      obtain ⟨p₁, phase, haside, hdone, hfinish⟩ :=
        finishCommand_course (htold.store.trans haccepts)
      rw [continueCommand, hfinish]
      exact .commits (htold'.trans haside.told) (fun hn => haside.world ▸ hwanes hn) hdone

theorem carries_takeCommand (hidle : s.phase = .command) (hbefore : Aside s.play p)
    (hstore : s.play.store = .accepting) :
    Carries s input (ofAct (takeCommand input) p) := by
  have hkeeps : ¬s.Withdraws input := by
    rintro ⟨d, -, hphase, -⟩
    rw [hidle] at hphase
    cases hphase
  cases input with
  | broken text => exact .fails hbefore.told
  | ended =>
    have hmade : Made False False True (do exit; display) := made_exit.bind fun _ => .display
    have haside := hmade.aside p
    obtain ⟨p₁, hquit⟩ : ∃ p₁, (do exit; display : Act Unit) p = (.ok (), p₁) := ⟨_, rfl⟩
    rw [hquit] at haside
    have hall := trans_of Aside hbefore haside
    have htake : takeCommand .ended = (do exit; display) >>= fun _ => (do
        tell .commit
        return .over none : Act Phase) := by
      simp [takeCommand]
    rw [htake, ofAct, bind_of_ok hquit,
      bind_of_ok (tell_accepting (hall.store.trans hstore) .commit)]
    exact .commits hall.told (fun _ => hall.world ▸ .refl hkeeps _) fun _ h => by cases h
  | interrupt =>
    have hmade : Made False False True (takeCommand .interrupt) :=
      (Made.push _).bind fun _ => Made.display.bind fun _ => .pure _
    have hall := trans_of Aside hbefore (hmade.aside p)
    exact .idles hidle hall.told hall.world
  | line line =>
    rw [takeCommand]
    by_cases hblank : line.toList.all Unicode.isWhitespace = true
    · rw [if_pos hblank]
      exact .idles hidle hbefore.told hbefore.world
    · rw [if_neg hblank]
      refine carries_continue (W := fun _ => False) hbefore hstore ?_ (by simpa using hkeeps)
      exact (made_execute trivial line).runs.answers (fun _ h => h) p

/-- Every input comes to one of four ends. -/
theorem carries_step (hstore : s.play.store = .accepting)
    (hwaits : ∀ failure, s.phase ≠ .over failure) (input : Input) :
    Carries s input (s.step input) := by
  unfold step
  rcases hphase : s.phase with _ | d | failure
  · have hread := @aside_log (.read .command input) rfl s.play
    exact carries_takeCommand hphase hread hstore
  · refine carries_continue (refl_of Aside s.play) hstore (answers_hear d input s.play) ?_
    constructor
    · rintro ⟨id, hid⟩
      exact ⟨d, id, hphase, hid⟩
    · rintro ⟨d', id, hphase', hid⟩
      rw [hphase] at hphase'
      cases hphase'
      exact ⟨id, hid⟩
  · exact absurd hphase (hwaits failure)

/-- A session that is over stays as it is; to any other one an input comes to one of the four
ends. -/
theorem step_cases (hstore : s.play.store = .accepting) (input : Input) :
    ((∃ failure, s.phase = .over failure) ∧ s.step input = s) ∨
      (∀ failure, s.phase ≠ .over failure) ∧ Carries s input (s.step input) := by
  by_cases hover : ∃ failure, s.phase = .over failure
  · obtain ⟨failure, hphase⟩ := hover
    exact .inl ⟨⟨failure, hphase⟩, step_over hphase input⟩
  · rw [not_exists] at hover
    exact .inr ⟨hover, carries_step hstore hover input⟩

/-- Whichever end it is, a commit comes last if there is one. -/
theorem Carries.told {s' : Session} (h : Carries s input s') :
    (∃ n, Told n s.play s'.play) ∨ ∃ n p phase, Told n s.play p ∧
      s' = ⟨{ p with log := .store .commit p.world none :: p.log }, phase⟩ := by
  cases h with
  | waits told | idles _ told | fails told => exact .inl ⟨_, told⟩
  | commits told => exact .inr ⟨_, _, _, told, rfl⟩

theorem Carries.store {s' : Session} (h : Carries s input s') : s'.play.store = s.play.store := by
  rcases h.told with ⟨_, htold⟩ | ⟨_, _, _, htold, rfl⟩
  · exact htold.store
  · exact htold.store

theorem accepts_foldl (hstore : s.play.store = .accepting) (inputs : List Input) :
    (inputs.foldl step s).play.store = .accepting := by
  induction inputs generalizing s with
  | nil => exact hstore
  | cons input inputs ih =>
    refine ih ?_
    rcases step_cases hstore input with ⟨-, heq⟩ | ⟨-, hcarries⟩
    · rwa [heq]
    · exact hcarries.store.trans hstore

end Session

end Adventure
