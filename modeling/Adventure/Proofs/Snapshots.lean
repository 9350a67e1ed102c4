import Adventure.Proofs.Beginnings
import Adventure.Proofs.RonForms
import Adventure.Proofs.Tellings
import Adventure.World.Snapshot
import Mathlib.Data.List.Induction

/-!
# Snapshots

A store that keeps a snapshot writes it at a commit if it has been told of an effect since the
commit before. What it has written can always be restored (`Copy.current_iff`), but what it has not
been told of, it does not write. `Session.saved_iff_reports` says when this goes wrong: all commits
leave a current snapshot behind if and only if in every command by which a choice is withdrawn some
action takes effect, too. A choice that can be made only once and that triggers nothing is enough
to lose its withdrawal (`Session.not_saved_gateStory`).
-/

namespace Adventure

open World

/-! ## Files -/

theorem World.fits_schema : schema.fits Ron.levels = true := by decide +kernel

namespace Copy

/-- The file that a copy is kept in, if one has been written. -/
def file? (c : Copy) : Option String := c.saved.map World.snapshot

/-- The file holds the world as it is now, or there is none and the world is as it was when the
game began. -/
def Current (c : Copy) (begun now : World) : Prop :=
  c.file? = none ∧ now = begun ∨ ∃ text, c.file? = some text ∧ World.restore? text = some now

/-- What a file was written for is what it restores. -/
theorem current_iff {c : Copy} {begun now : World} :
    c.Current begun now ↔ c.saved = none ∧ now = begun ∨ c.saved = some now := by
  rw [Current, file?]
  cases hsaved : c.saved with
  | none => simp
  | some w =>
    have hlegible := schema.legible_toRon Ron.levels fits_schema w
    have hread := schema.ofRon?_toRon Ron.levels fits_schema w
    simp [World.restore?, World.snapshot, Ron.parse?_print hlegible, hread]

/-- A copy that is current for two worlds is so because they are the same. -/
theorem Current.unique {c : Copy} {begun now now' : World} (h : c.Current begun now)
    (h' : c.Current begun now') : now = now' := by
  rw [current_iff] at h h'
  rcases h with ⟨hnone, rfl⟩ | hsome <;> rcases h' with ⟨hnone', rfl⟩ | hsome'
  · rfl
  · rw [hnone] at hsome'
    cases hsome'
  · rw [hsome] at hnone'
    cases hnone'
  · exact Option.some.inj (hsome.symm.trans hsome')

end Copy

/-- Every commit leaves a current snapshot behind. -/
def Play.Saved (begun : World) (p : Play) : Prop :=
  ∀ before now, p.Commits before now →
    (Copy.ofEvents (before ++ [.store .commit now none])).Current begun now

theorem Told.saved_iff {begun : World} {n : Nat} {p p' : Play} (h : Told n p p') :
    p'.Saved begun ↔ p.Saved begun := by
  simp only [Play.Saved, h.commits]

theorem Play.saved_commit {begun : World} {p p' : Play}
    (h : p'.log = .store .commit p.world none :: p.log) :
    p'.Saved begun ↔ p'.copy.Current begun p.world ∧ p.Saved begun := by
  have hcopy : p'.copy = Copy.ofEvents (p.log.reverse ++ [.store .commit p.world none]) := by
    rw [Play.copy, h, List.reverse_cons]
  rw [hcopy]
  constructor
  · intro hsaved
    refine ⟨hsaved _ _ ((commits_cons h).2 (.inl ⟨rfl, rfl⟩)), fun before now hc => ?_⟩
    exact hsaved before now ((commits_cons h).2 (.inr hc))
  · rintro ⟨hcurrent, hsaved⟩ before now hc
    rcases (commits_cons h).1 hc with ⟨rfl, heq⟩ | hc
    · cases heq
      exact hcurrent
    · exact hsaved before now hc

/-- The world of the commit that has just happened. -/
def Play.lastCommit? (p : Play) : Option World :=
  p.log.head?.bind fun
    | .store .commit now none => some now
    | _ => none

theorem Play.Saved.current {begun now : World} {p : Play} (h : p.Saved begun)
    (hlast : p.lastCommit? = some now) : p.copy.Current begun now := by
  cases hlog : p.log with
  | nil => simp [lastCommit?, hlog] at hlast
  | cons e log =>
    have he : e = .store .commit now none := by
      simp only [lastCommit?, hlog, List.head?_cons, Option.bind_some] at hlast
      split at hlast
      · exact congrArg (Event.store .commit · none) (Option.some.inj hlast)
      · cases hlast
    have hcommit : ({ p with world := now } : Play).log = .store .commit now none :: log := by
      rw [hlog, he]
    exact ((saved_commit (p := { p with world := now, log := log }) hcommit).1 h).1

namespace Session

/-! ## Commands -/

/-- How often the store was told that a command is done. -/
def commits (s : Session) : Nat := s.play.calls.count .commit

/-- How often the store was told of an effect. -/
def flushes (s : Session) : Nat := s.play.calls.count .flush

/-- With one of some inputs a choice is made that can be made only once. -/
def WithdrawsAmong (s : Session) (inputs : List Input) : Prop :=
  ∃ before input after, inputs = before ++ input :: after ∧
    (before.foldl step s).Withdraws input

/-- Some inputs are those of one command: the store commits with the last one. -/
def IsCommand (s : Session) (inputs : List Input) : Prop :=
  s.phase = .command ∧ ∃ init last, inputs = init ++ [last] ∧
    (init.foldl step s).commits = s.commits ∧ (inputs.foldl step s).commits = s.commits + 1

/-- In every command by which a choice is withdrawn the store is told of some effect. -/
def Reports (s : Session) (inputs : List Input) : Prop :=
  ∀ before command after, inputs = before ++ command ++ after →
    (before.foldl step s).IsCommand command → (before.foldl step s).WithdrawsAmong command →
    (before.foldl step s).flushes < (command.foldl step (before.foldl step s)).flushes

/-! ## One command -/

/-- The session is on its way through a command that began at `b`. -/
structure Underway (b : Session) (inputs : List Input) (n : Nat) (s : Session) : Prop where
  told : Told n b.play s.play
  wanes : (∀ failure, s.phase ≠ .over failure) → n = 0 →
    Wanes (b.WithdrawsAmong inputs) b.play.world s.play.world

variable {b s s' : Session} {input : Input} {inputs : List Input} {n : Nat}

theorem withdrawsAmong_concat : b.WithdrawsAmong (inputs ++ [input]) ↔
    b.WithdrawsAmong inputs ∨ (inputs.foldl step b).Withdraws input := by
  constructor
  · rintro ⟨before, i, after, heq, hwithdraws⟩
    rcases List.eq_nil_or_concat after with rfl | ⟨after, last, rfl⟩
    · obtain ⟨rfl, hlast⟩ := List.append_inj' heq rfl
      obtain rfl : input = i := by simpa using hlast
      exact .inr hwithdraws
    · rw [List.concat_eq_append, ← List.cons_append, ← List.append_assoc] at heq
      exact .inl ⟨before, i, after, (List.append_inj' heq rfl).1, hwithdraws⟩
  · rintro (⟨before, i, after, rfl, hwithdraws⟩ | hwithdraws)
    · exact ⟨before, i, after ++ [input], by simp, hwithdraws⟩
    · exact ⟨inputs, input, [], rfl, hwithdraws⟩

theorem Underway.begin (b : Session) : Underway b [] 0 b := by
  refine ⟨.refl _, fun _ _ => .refl ?_ _⟩
  rintro ⟨before, i, after, heq, -⟩
  simp at heq

/-- What the store is told of in a command adds up. -/
theorem Underway.wanes_concat {m : Nat} {p : Play} (h : Underway b inputs n (inputs.foldl step b))
    (hwaits : ∀ failure, (inputs.foldl step b).phase ≠ .over failure)
    (hm : m = 0 → Wanes ((inputs.foldl step b).Withdraws input)
      (inputs.foldl step b).play.world p.world) :
    n + m = 0 → Wanes (b.WithdrawsAmong (inputs ++ [input])) b.play.world p.world := by
  intro hzero
  rw [withdrawsAmong_concat]
  exact (h.wanes hwaits (by omega)).trans (hm (by omega))

theorem Underway.concat (h : Underway b inputs n (inputs.foldl step b))
    (hstore : b.play.store = .accepting)
    (hcommits : ((inputs ++ [input]).foldl step b).commits = b.commits) :
    ∃ m, Underway b (inputs ++ [input]) m ((inputs ++ [input]).foldl step b) := by
  rw [List.foldl_append, List.foldl_cons, List.foldl_nil] at hcommits ⊢
  rcases step_cases (accepts_foldl hstore inputs) input with
    ⟨⟨failure, hphase⟩, heq⟩ | ⟨hwaits, hcarries⟩
  · rw [heq]
    exact ⟨n, h.told, fun hwaits => absurd hphase (hwaits failure)⟩
  · generalize (inputs.foldl step b).step input = s' at hcommits hcarries ⊢
    cases hcarries with
    | waits told wanes => exact ⟨_, h.told.trans told, fun _ => h.wanes_concat hwaits wanes⟩
    | idles idle told world =>
      refine ⟨_, h.told.trans told, fun _ => h.wanes_concat hwaits fun _ => ?_⟩
      rw [world]
      refine .refl ?_ _
      rintro ⟨d, -, hphase, -⟩
      rw [idle] at hphase
      cases hphase
    | commits told =>
      have hcount := (h.told.trans told).count_commit
      simp [Session.commits, Play.calls, Event.call?] at hcommits hcount
      omega
    | fails told => exact ⟨_, h.told.trans told, fun hwaits => absurd rfl (hwaits _)⟩

theorem commits_le_step (hstore : s.play.store = .accepting) (input : Input) :
    s.commits ≤ (s.step input).commits := by
  rcases step_cases hstore input with ⟨-, heq⟩ | ⟨-, hcarries⟩
  · exact Nat.le_of_eq (congrArg Session.commits heq.symm)
  · rcases hcarries.told with ⟨_, htold⟩ | ⟨_, _, _, htold, heq⟩
    · exact Nat.le_of_eq htold.count_commit.symm
    · rw [heq]
      refine Nat.le_trans (Nat.le_of_eq htold.count_commit.symm) ?_
      simp [Session.commits, Play.calls, Event.call?]

theorem commits_le_foldl (hstore : s.play.store = .accepting) (inputs : List Input) :
    s.commits ≤ (inputs.foldl step s).commits := by
  induction inputs generalizing s with
  | nil => exact Nat.le_refl _
  | cons input inputs ih =>
    exact Nat.le_trans (commits_le_step hstore input) (ih (accepts_foldl hstore [input]))

theorem underway_of_commits_eq (hstore : b.play.store = .accepting) (inputs : List Input)
    (hcommits : (inputs.foldl step b).commits = b.commits) :
    ∃ n, Underway b inputs n (inputs.foldl step b) := by
  induction inputs using List.reverseRecOn with
  | nil => exact ⟨0, .begin b⟩
  | append_singleton inputs input ih =>
    have hbefore : (inputs.foldl step b).commits = b.commits := by
      refine Nat.le_antisymm ?_ (commits_le_foldl hstore inputs)
      have hlast := commits_le_foldl (accepts_foldl hstore inputs) [input]
      rw [← hcommits, List.foldl_append]
      exact hlast
    obtain ⟨n, hn⟩ := ih hbefore
    exact hn.concat hstore hcommits

/-! ## Between commands -/

/-- The session waits for a command, and if all commits so far left a current snapshot behind, it is
current now. -/
structure Rests (begun : World) (b : Session) : Prop where
  phase : b.phase = .command
  fresh : b.play.copy.stale = false
  current : b.play.Saved begun → b.play.copy.Current begun b.play.world

/-- The copy after a commit is that of the world if the store was told of some effect before. -/
theorem copy_commit {p p' : Play} (hfresh : b.play.copy.stale = false) (htold : Told n b.play p)
    (hlog : p'.log = .store .commit p.world none :: p.log) :
    p'.copy = if 0 < n then ⟨some p.world, false⟩ else b.play.copy := by
  rw [Play.copy_cons hlog, htold.copy]
  generalize b.play.copy = c at hfresh ⊢
  obtain ⟨saved, stale⟩ := c
  obtain rfl : stale = false := hfresh
  by_cases hpos : 0 < n <;> simp [Copy.after, hpos]

variable {begun : World}

theorem rests_start (w : World) (h : (start w .accepting).phase = .command) :
    Rests w (start w .accepting) := by
  have haside := aside_start w .accepting
  have hcopy : (start w .accepting).play.copy = {} := haside.told.copy
  refine ⟨h, by rw [hcopy], fun _ => ?_⟩
  rw [hcopy, Copy.current_iff]
  exact .inl ⟨rfl, haside.world⟩

theorem rests_commit {p p' : Play} (hfresh : b.play.copy.stale = false) (htold : Told n b.play p)
    (hlog : p'.log = .store .commit p.world none :: p.log) (hworld : p'.world = p.world) :
    Rests begun ⟨p', .command⟩ := by
  refine ⟨rfl, ?_, fun hsaved => hworld ▸ ((Play.saved_commit hlog).1 hsaved).1⟩
  have hcopy := copy_commit hfresh htold hlog
  simp only [hcopy]
  split
  · rfl
  · exact hfresh

theorem Rests.idle {p : Play} (h : Rests begun b) (htold : Told 0 b.play p)
    (hworld : p.world = b.play.world) : Rests begun ⟨p, .command⟩ := by
  have hcopy : p.copy = b.play.copy := by
    rw [htold.copy]
    simp
  refine ⟨rfl, by rw [hcopy]; exact h.fresh, fun hsaved => ?_⟩
  rw [hcopy, hworld]
  exact h.current (htold.saved_iff.1 hsaved)

/-- A session that is not over is on its way through a command, whatever has been sent so far. -/
theorem exists_underway (w : World) (inputs : List Input)
    (hwaits : ∀ failure, (inputs.foldl step (start w .accepting)).phase ≠ .over failure) :
    ∃ before command n, inputs = before ++ command ∧
      Rests w (before.foldl step (start w .accepting)) ∧
      Underway (before.foldl step (start w .accepting)) command n
        (inputs.foldl step (start w .accepting)) ∧
      ((inputs.foldl step (start w .accepting)).phase = .command → command = []) := by
  induction inputs using List.reverseRecOn with
  | nil =>
    have hphase : (start w .accepting).phase = .command := by
      rcases start_command w .accepting with hphase | ⟨failure, hphase⟩
      · exact hphase
      · exact absurd hphase (hwaits failure)
    exact ⟨[], [], 0, rfl, rests_start w hphase, .begin _, fun _ => rfl⟩
  | append_singleton inputs input ih =>
    rw [List.foldl_append, List.foldl_cons, List.foldl_nil] at hwaits ⊢
    have hbefore : ∀ failure, (inputs.foldl step (start w .accepting)).phase ≠ .over failure := by
      intro failure hphase
      rw [step_over hphase] at hwaits
      exact hwaits failure hphase
    have hstore : (inputs.foldl step (start w .accepting)).play.store = .accepting :=
      accepts_foldl (aside_start w .accepting).store inputs
    have hcarries := carries_step hstore hbefore input
    obtain ⟨before, command, n, rfl, hrests, hunderway, hidle⟩ := ih hbefore
    rw [List.foldl_append] at *
    generalize hb : before.foldl step (start w .accepting) = b at *
    generalize hs' : (command.foldl step b).step input = s' at *
    -- Where the command goes on, it gets longer; otherwise the next one begins here.
    cases hcarries with
    | @waits m p d told wanes =>
      refine ⟨before, command ++ [input], n + m, by simp, ?_, ?_, fun hphase => by cases hphase⟩
      all_goals rw [hb]
      · exact hrests
      · exact ⟨hunderway.told.trans told, fun _ => hunderway.wanes_concat hbefore wanes⟩
    | @idles p idle told world =>
      obtain rfl := hidle idle
      have hnext : (before ++ [input]).foldl step (start w .accepting) = ⟨p, .command⟩ := by
        rw [List.foldl_append, hb]
        exact hs'
      refine ⟨before ++ [input], [], 0, by simp, ?_, ?_, fun _ => rfl⟩ <;> rw [hnext]
      · exact hrests.idle told world
      · exact .begin _
    | @commits _ p phase told wanes done =>
      have hphase : phase = .command := by
        rcases phase with _ | d | failure
        · rfl
        · exact absurd rfl (done d)
        · exact absurd rfl (hwaits failure)
      subst hphase
      have hnext : (before ++ command ++ [input]).foldl step (start w .accepting)
          = ⟨{ p with log := .store .commit p.world none :: p.log }, .command⟩ := by
        rw [List.foldl_append, List.foldl_append, hb]
        exact hs'
      refine ⟨before ++ command ++ [input], [], 0, by simp, ?_, ?_, fun _ => rfl⟩ <;> rw [hnext]
      · exact rests_commit hrests.fresh (hunderway.told.trans told) rfl rfl
      · exact .begin _
    | fails => exact absurd rfl (hwaits _)

/-! ## All commands -/

/-- A commit leaves a current snapshot behind if the store was told of some effect since the last
one, or nothing was withdrawn. -/
theorem current_commit {p p' : Play} (hrests : Rests begun b) (hsaved : b.play.Saved begun)
    (htold : Told n b.play p) (hlog : p'.log = .store .commit p.world none :: p.log)
    {withdrawn : Prop} (hwanes : n = 0 → Wanes withdrawn b.play.world p.world) :
    p'.copy.Current begun p.world ↔ (withdrawn → 0 < n) := by
  rw [copy_commit hrests.fresh htold hlog]
  by_cases hpos : 0 < n
  · simp [hpos, Copy.current_iff]
  · have hwaned := hwanes (by omega)
    simp only [hpos, if_false, imp_false]
    constructor
    · intro hcurrent hwithdrawn
      exact hwaned.ne hwithdrawn (hcurrent.unique (hrests.current hsaved))
    · intro hnone
      rw [hwaned.same hnone]
      exact hrests.current hsaved

/-- What has been saved so far cannot be lost. -/
theorem saved_of_foldl (hstore : s.play.store = .accepting) (inputs : List Input)
    (h : (inputs.foldl step s).play.Saved begun) : s.play.Saved begun := by
  induction inputs generalizing s with
  | nil => exact h
  | cons input inputs ih =>
    have hnext : (s.step input).play.Saved begun := ih (accepts_foldl hstore [input]) h
    rcases step_cases hstore input with ⟨-, heq⟩ | ⟨-, hcarries⟩
    · rwa [heq] at hnext
    · rcases hcarries.told with ⟨_, htold⟩ | ⟨_, _, _, htold, heq⟩
      · exact htold.saved_iff.1 hnext
      · rw [heq] at hnext
        exact htold.saved_iff.1 ((Play.saved_commit rfl).1 hnext).2

theorem count_flush_commit {p p' : Play} (h : p'.log = .store .commit p.world none :: p.log) :
    p'.calls.count .flush = p.calls.count .flush := by
  simp [Play.calls, h, Event.call?]

theorem count_commit_commit {p p' : Play} (h : p'.log = .store .commit p.world none :: p.log) :
    p'.calls.count .commit = p.calls.count .commit + 1 := by
  simp [Play.calls, h, Event.call?]

/-- As long as every command by which a choice is withdrawn tells the store of some effect, every
commit leaves a current snapshot behind. -/
theorem saved_of_reports {w : World} {inputs : List Input}
    (h : (start w .accepting).Reports inputs) :
    (inputs.foldl step (start w .accepting)).play.Saved w := by
  have hstore := (aside_start w .accepting).store
  induction inputs using List.reverseRecOn with
  | nil =>
    refine (aside_start w .accepting).told.saved_iff.2 ?_
    rintro before now ⟨after, hafter⟩
    simp at hafter
  | append_singleton inputs input ih =>
    have hsaved := ih fun before command after heq =>
      h before command (after ++ [input]) (by rw [heq]; simp)
    rw [List.foldl_append, List.foldl_cons, List.foldl_nil]
    rcases step_cases (accepts_foldl hstore inputs) input with ⟨-, heq⟩ | ⟨hwaits, hcarries⟩
    · rwa [heq]
    · obtain ⟨before, command, n, rfl, hrests, hunderway, -⟩ := exists_underway w inputs hwaits
      have hreports := h before (command ++ [input]) [] (by simp)
      rw [List.foldl_append] at hsaved hwaits hcarries hunderway ⊢
      generalize hb : before.foldl step (start w .accepting) = b at *
      have hlast : (command ++ [input]).foldl step b = (command.foldl step b).step input := by
        rw [List.foldl_append, List.foldl_cons, List.foldl_nil]
      have hcommand : b.phase = .command ∧ (command.foldl step b).commits = b.commits :=
        ⟨hrests.phase, hunderway.told.count_commit⟩
      generalize (command.foldl step b).step input = s' at hcarries hlast ⊢
      cases hcarries with
      | waits told | idles _ told | fails told => exact told.saved_iff.2 hsaved
      | @commits m p phase told wanes =>
        have htold := hunderway.told.trans told
        refine (Play.saved_commit rfl).2 ⟨?_, told.saved_iff.2 hsaved⟩
        refine (current_commit hrests (hunderway.told.saved_iff.1 hsaved) htold rfl
          (hunderway.wanes_concat hwaits wanes)).2 fun hwithdraws => ?_
        have hone : ((command ++ [input]).foldl step b).commits = b.commits + 1 := by
          rw [hlast]
          exact (count_commit_commit rfl).trans (congrArg (· + 1) htold.count_commit)
        have hflushes : ((command ++ [input]).foldl step b).flushes = n + m + b.flushes := by
          rw [hlast]
          exact (count_flush_commit rfl).trans htold.count_flush
        have hmore := hreports ⟨hcommand.1, command, input, rfl, hcommand.2, hone⟩ hwithdraws
        omega

/-- A command by which a choice is withdrawn and that does not tell the store of any effect leaves
a snapshot behind that is not current. -/
theorem reports_of_saved {w : World} {inputs : List Input}
    (h : (inputs.foldl step (start w .accepting)).play.Saved w) :
    (start w .accepting).Reports inputs := by
  rintro before command after rfl ⟨hphase, init, last, rfl, hinit, hone⟩ hwithdraws
  have hstore := accepts_foldl (aside_start w .accepting).store before
  obtain ⟨before', command', _, heq, hrests, -, hidle⟩ := exists_underway w before
    fun failure hover => by rw [hphase] at hover; cases hover
  obtain rfl : before = before' := by rw [heq, hidle hphase, List.append_nil]
  rw [List.foldl_append, List.foldl_append] at h
  generalize before.foldl step (start w .accepting) = b at *
  have hsaved := saved_of_foldl (accepts_foldl hstore _) after h
  have hbegun : b.play.Saved w := saved_of_foldl hstore _ hsaved
  obtain ⟨n, hunderway⟩ := underway_of_commits_eq hstore init hinit
  have hlast : (init ++ [last]).foldl step b = (init.foldl step b).step last := by
    rw [List.foldl_append, List.foldl_cons, List.foldl_nil]
  rw [hlast] at hone hsaved ⊢
  -- The last input commits, so the session was not over before it.
  have hwaits : ∀ failure, (init.foldl step b).phase ≠ .over failure := by
    intro failure hover
    rw [step_over hover, hinit] at hone
    omega
  have hcarries := carries_step (accepts_foldl hstore init) hwaits last
  generalize (init.foldl step b).step last = s' at hcarries hone hsaved ⊢
  have hsilent : ∀ {m p}, Told m (init.foldl step b).play p →
      p.calls.count .commit ≠ b.commits + 1 := by
    intro m p told hcount
    rw [(hunderway.told.trans told).count_commit, Session.commits] at hcount
    omega
  cases hcarries with
  | waits told | idles _ told | fails told => exact absurd hone (hsilent told)
  | @commits m p phase told wanes =>
    have htold := hunderway.told.trans told
    have hcurrent := (current_commit hrests hbegun htold rfl
      (hunderway.wanes_concat hwaits wanes)).1 ((Play.saved_commit rfl).1 hsaved).1 hwithdraws
    have hflushes : Session.flushes ⟨{ p with log := .store .commit p.world none :: p.log }, phase⟩
        = n + m + b.flushes := (count_flush_commit rfl).trans htold.count_flush
    omega

/-- All commits of a game leave a current snapshot behind, or none where nothing has changed, if and
only if in every command by which a choice is withdrawn some action takes effect, too. -/
theorem saved_iff_reports (w : World) (inputs : List Input) :
    ((start w .accepting).run inputs).play.Saved w ↔
      (start w .accepting).Reports (inputs ++ [.ended, .ended]) :=
  ⟨reports_of_saved, saved_of_reports⟩

/-- The choice of the story triggers nothing. When it has been made and the conversation is over,
the store commits, but no snapshot is written. -/
theorem not_saved_gateStory : ∃ w, World.load Story.gateStory = .ok w ∧
    ¬((start w .accepting).run [.line "talk to guard", .line "1"]).play.Saved w := by
  have hrun : (World.load Story.gateStory).toOption.any (fun w =>
      let p := ([.line "talk to guard", .line "1"].foldl step (start w .accepting)).play
      p.copy.saved.isNone && p.lastCommit?.any fun now =>
        (w.get? (EntityId.ofSymbol .choice "ask")).any (Choice.enabled ·)
          && !(now.get? (EntityId.ofSymbol .choice "ask")).any (Choice.enabled ·)) = true := by
    decide +kernel
  cases hload : World.load Story.gateStory with
  | error failure =>
    rw [hload] at hrun
    cases hrun
  | ok w =>
    refine ⟨w, rfl, fun hsaved => ?_⟩
    rw [hload, Except.toOption, Option.any_some] at hrun
    rw [run, List.foldl_append] at hsaved
    have hstore := accepts_foldl (aside_start w .accepting).store
    replace hsaved := saved_of_foldl (hstore _) _ hsaved
    generalize ([.line "talk to guard", .line "1"].foldl step (start w .accepting)).play = p
      at hrun hsaved
    obtain ⟨hnone, hlast⟩ := Bool.and_eq_true_iff.1 hrun
    rw [Option.isNone_iff_eq_none] at hnone
    cases hcommit : p.lastCommit? with
    | none => simp [hcommit] at hlast
    | some now =>
      rcases Copy.current_iff.1 (hsaved.current hcommit) with ⟨-, rfl⟩ | hsome
      · simp [hcommit] at hlast
      · rw [hnone] at hsome
        cases hsome

end Session

end Adventure
