import Adventure.Proofs.Chronicles
import Mathlib.Data.List.Basic

/-!
# What has been shown

Each input that a session takes is read where the session waits, and nothing else is read until the
session waits again (`Session.step_read`). So between two inputs the play is just as it is where the
player is asked for a line. There everything that was said has been printed, each message once, in
order and in its tone (`Session.Complete`), and the game goes on; where the game is over everything
has been printed, too, and no more lines are read (`Session.shows_all`).
-/

namespace Adventure

open Steps Act

/-! ## Reading -/

/-- From `p` to `q` nothing is read. -/
def Play.Unread (p q : Play) : Prop :=
  q.store = p.store ∧ ∃ events, q.log = events ++ p.log ∧ ∀ e ∈ events, e.input? = none

namespace Play

instance : Std.Refl Unread := ⟨fun _ => ⟨rfl, [], rfl, List.forall_mem_nil _⟩⟩

instance : IsTrans Play Unread := ⟨by
  rintro p q r ⟨hstore, events, hlog, hunread⟩ ⟨hstore', events', hlog', hunread'⟩
  refine ⟨hstore'.trans hstore, events' ++ events, ?_, List.forall_mem_append.2 ⟨hunread', hunread⟩⟩
  rw [hlog', hlog, List.append_assoc]⟩

theorem unread_after {p : Play} {h : List Happening} (fits : p.Undergoes h)
    (unread : ∀ e ∈ h.flatMap Happening.events, e.input? = none) : p.Unread (p.after h) := by
  obtain ⟨hlog, hstore⟩ := log_after fits
  exact ⟨hstore, _, hlog, fun e he => unread e (List.mem_reverse.1 he)⟩

end Play

namespace Act

variable {α : Type} {acts withdraws : Prop}

theorem Course.unread {m : Act α} {p : Play} (hm : Course acts withdraws m p) :
    p.Unread (m p).2 := by
  cases hm with
  | ends fits work result =>
    rw [result]
    exact Play.unread_after fits work.unread
  | refused fits unflushed result =>
    obtain ⟨before, w, work, hevents⟩ := unflushed.exists_work
    rw [result]
    refine Play.unread_after fits ?_
    rw [hevents]
    exact List.forall_mem_append.2 ⟨work.unread, by simp [Event.input?]⟩
  | fails fits broken result =>
    obtain ⟨before, work, hevents⟩ := broken.exists_work
    rw [result]
    refine Play.unread_after fits ?_
    rw [hevents]
    exact work.unread

theorem Made.unread {m : Act α} (hm : Made True True True m) : Moves Play.Unread m :=
  fun p => (hm.course p).unread

theorem unread_tell (call : StoreCall) : Moves Play.Unread (tell call) := by
  intro p
  have htell : (tell call p).2
      = p.after [.told call p.world (p.store.refusal? p.calls call)] := by
    rw [Play.after_cons, Play.after_nil]
    rfl
  rw [htell]
  exact Play.unread_after ⟨⟨rfl, rfl⟩, trivial⟩ (by simp [Happening.events, Event.input?])

end Act

namespace Session

variable {s : Session}

theorem step_read_of_eq {prompt : Prompt} {input : Input} {act : Act Phase}
    (hunread : Moves Play.Unread act)
    (hstep : s.step input = ofAct act (s.play.next (.read prompt input))) :
    (s.step input).play.store = s.play.store ∧
      ∃ rest, (s.step input).events = s.events ++ .read prompt input :: rest ∧
        ∀ e ∈ rest, e.input? = none := by
  obtain ⟨hstore, events, hlog, hevents⟩ := hunread (s.play.next (.read prompt input))
  have hplay : (s.step input).play = (act (s.play.next (.read prompt input))).2 := by
    rw [hstep, play_ofAct]
  have hnext : (s.play.next (.read prompt input)).log = .read prompt input :: s.play.log := rfl
  rw [hplay]
  refine ⟨hstore, events.reverse, ?_, fun e he => hevents e (List.mem_reverse.1 he)⟩
  rw [Session.events, Session.events, hplay, hlog, hnext]
  simp

/-- A session that waits reads what the player sends, and nothing else up to the next wait. -/
theorem step_read {prompt : Prompt} (h : s.phase.prompt? = some prompt) (input : Input) :
    (s.step input).play.store = s.play.store ∧
      ∃ rest, (s.step input).events = s.events ++ .read prompt input :: rest ∧
        ∀ e ∈ rest, e.input? = none := by
  obtain ⟨p, _ | d | failure⟩ := s
  · obtain rfl : Prompt.command = prompt := Option.some.inj h
    exact step_read_of_eq (moves_takeCommand Made.unread (unread_tell _) input) rfl
  · obtain rfl : Prompt.choice = prompt := Option.some.inj h
    have hunread : Moves Play.Unread (d.answer input >>= continueCommand) :=
      (d.made_answer input).unread.bind (moves_continueCommand Made.unread (unread_tell _))
    exact step_read_of_eq hunread rfl
  · cases h

/-- A session that is over takes no more input. -/
theorem step_of_over (h : s.phase.prompt? = none) (input : Input) : s.step input = s := by
  obtain ⟨failure, hover⟩ := Phase.prompt?_eq_none.1 h
  exact step_over hover input

theorem foldl_of_over (h : s.phase.prompt? = none) (inputs : List Input) :
    inputs.foldl step s = s :=
  List.foldl_fixed' (step_of_over h) inputs

/-- What the session has read so far. -/
def taken (s : Session) : List Input := s.events.filterMap Event.input?

theorem taken_step {prompt : Prompt} (h : s.phase.prompt? = some prompt) (input : Input) :
    (s.step input).taken = s.taken ++ [input] := by
  obtain ⟨-, rest, hevents, hrest⟩ := step_read h input
  have hnone : rest.filterMap Event.input? = [] := List.filterMap_eq_nil_iff.2 hrest
  have hread : (Event.read prompt input :: rest).filterMap Event.input? = [input] := by
    rw [← hnone]
    rfl
  rw [taken, hevents, List.filterMap_append, hread]
  rfl

/-- What the player sends is read in order, and all of it unless the session is over before. -/
theorem taken_foldl (s : Session) (inputs : List Input) :
    ∃ read, read <+: inputs ∧ (inputs.foldl step s).taken = s.taken ++ read ∧
      ((inputs.foldl step s).phase.prompt? ≠ none → read = inputs) := by
  induction inputs generalizing s with
  | nil => exact ⟨[], List.prefix_rfl, (List.append_nil _).symm, fun _ => rfl⟩
  | cons input inputs ih =>
    cases hprompt : s.phase.prompt? with
    | none =>
      refine ⟨[], List.nil_prefix, ?_, fun hwaits => ?_⟩ <;> rw [foldl_of_over hprompt] at *
      · exact (List.append_nil _).symm
      · exact absurd hprompt hwaits
    | some prompt =>
      obtain ⟨read, hread, htaken, hall⟩ := ih (s.step input)
      refine ⟨input :: read, List.cons_prefix_cons.2 ⟨rfl, hread⟩, ?_, fun hwaits => ?_⟩
      · rw [List.foldl_cons, htaken, taken_step hprompt, List.append_assoc]
        rfl
      · rw [hall hwaits]

theorem store_foldl (s : Session) (inputs : List Input) :
    (inputs.foldl step s).play.store = s.play.store := by
  induction inputs generalizing s with
  | nil => rfl
  | cons input inputs ih =>
    rw [List.foldl_cons, ih]
    cases hprompt : s.phase.prompt? with
    | none => rw [step_of_over hprompt]
    | some prompt => exact (step_read hprompt input).1

/-- Before the game waits for the first time nothing is read. -/
theorem taken_resume {p : Play} (hlog : p.log = []) :
    (resume p).taken = [] ∧ (resume p).play.store = p.store := by
  have hunread : Moves Play.Unread (Session.opening >>= fun _ => settled) :=
    made_opening.unread.bind fun _ => Moves.get.bind fun _ => .pure _
  obtain ⟨hstore, events, hevents, hinput⟩ := hunread p
  have hplay : (resume p).play = ((Session.opening >>= fun _ => settled) p).2 := play_ofAct ..
  rw [taken, Session.events, hplay]
  refine ⟨List.filterMap_eq_nil_iff.2 fun e he => hinput e ?_, hstore⟩
  rw [hevents, hlog, List.append_nil] at he
  exact List.mem_reverse.1 he

/-- A whole session has read what the player has sent, as far as it has gone on. -/
theorem taken_initial {p : Play} (hlog : p.log = []) (inputs : List Input) :
    (inputs.foldl step (resume p)).taken <+: inputs ∧
      ((inputs.foldl step (resume p)).phase.prompt? ≠ none →
        (inputs.foldl step (resume p)).taken = inputs) := by
  obtain ⟨read, hread, htaken, hall⟩ := taken_foldl (resume p) inputs
  rw [(taken_resume hlog).1, List.nil_append] at htaken
  rw [htaken]
  exact ⟨hread, hall⟩

/-! ## Complete sessions -/

/-- Everything that was said has been printed, each message once, in order and in its tone. -/
def Complete (s : Session) : Prop :=
  s.play.view = [] ∧ s.events.filter Event.isLine = Act.printed s.play.said

theorem complete_of_shown (hshown : s.play.Shown) (hview : s.play.view = []) : s.Complete := by
  refine ⟨hview, ?_⟩
  rw [Play.Shown, hview] at hshown
  exact (List.append_nil _).symm.trans hshown

/-- A game that is over has printed everything. -/
theorem complete_of_over {p : Play} (hlog : p.log = []) (recorded : p.Recorded)
    {inputs : List Input} (hover : (inputs.foldl step (resume p)).phase = .over none) :
    (inputs.foldl step (resume p)).Complete ∧
      (inputs.foldl step (resume p)).play.status ≠ .running := by
  obtain ⟨opening, rounds, present, h⟩ := exists_chronicle hlog recorded inputs
  obtain ⟨hview, hended⟩ := h.suits.shown hover
  exact ⟨complete_of_shown h.record.recorded.shown hview, hended⟩

/-- Whatever the world, the store and the lines that the player sends: wherever a session waits, it
has read all lines so far, everything that was said has been printed, the game goes on and no action
has ended it; and the next line is the only one that is read up to the next wait. A session that is
over reads nothing any more. After all lines it is over, and unless something has failed the game
has ended and everything has been printed. -/
theorem shows_all (world : World) (cache : PatternCache) (status : Status) (store : Store)
    (inputs : List Input) :
    let p : Play := { world, cache, status, store }
    let s := inputs.foldl step (resume p)
    (∀ prompt, s.phase.prompt? = some prompt →
      s.Complete ∧ s.play.status = .running ∧ (∀ deed ∈ s.play.deeds, ¬deed.Ends) ∧
      s.taken = inputs ∧
      ∀ input, ∃ rest, (s.step input).events = s.events ++ .read prompt input :: rest ∧
        ∀ e ∈ rest, e.input? = none) ∧
    (s.phase.prompt? = none → ∀ input, s.step input = s) ∧
    let whole := (resume p).run inputs
    whole.phase.prompt? = none ∧ whole.taken <+: inputs ++ [.ended, .ended] ∧
      (whole.phase = .over none → whole.Complete ∧ whole.play.status ≠ .running) := by
  intro p s
  have hrecorded : p.Recorded := Play.recorded_new world cache status store
  refine ⟨fun prompt hprompt => ?_, fun hover input => step_of_over hover input, ?_⟩
  · obtain ⟨opening, rounds, present, h⟩ := exists_chronicle rfl hrecorded inputs
    obtain ⟨hview, hrunning⟩ := h.suits.ready hprompt
    refine ⟨complete_of_shown h.record.recorded.shown hview, hrunning,
      h.record.recorded.going hrunning, ?_, fun input => (step_read hprompt input).2⟩
    exact (taken_initial rfl inputs).2 (by simp [s, hprompt])
  · obtain ⟨failure, hover⟩ := over_run (resume p) inputs
    exact ⟨by rw [hover]; rfl, (taken_initial rfl _).1, complete_of_over rfl hrecorded⟩

end Session

end Adventure
