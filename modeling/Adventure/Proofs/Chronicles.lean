import Adventure.Proofs.Rounds

/-!
# Chronicles of sessions

Whatever its world and its store, a session can be told as an opening, rounds and the part of a
round that the session has come to (`Session.exists_chronicle`). Each step adds to the present round
and may close it (`Session.Chronicle.step`). The player is asked for a line only when nothing waits
to be shown and the game goes on. Unless the store has refused something, the session with a store
that accepts everything would have come to the same point.
-/

namespace Adventure

open Steps Act

/-! ## Records -/

/-- A record of what the outside has seen of a play: an opening, rounds and part of a round. -/
structure Record (q : Play) (opening : List Event) (rounds : List (List Event))
    (present : List Event) : Prop where
  log : q.log.reverse = opening ++ rounds.flatten ++ present
  opens : ∀ e ∈ opening, e.isLine = true
  past : ∀ round ∈ rounds, Round round
  recorded : q.Recorded

namespace Record

variable {q : Play} {opening present : List Event} {rounds : List (List Event)}

/-- What happens next belongs to the present round. -/
theorem extend (record : Record q opening rounds present) {h : List Happening}
    (undergoes : q.Undergoes h) (recorded : (q.after h).Recorded) :
    Record (q.after h) opening rounds (present ++ h.flatMap Happening.events) where
  log := by
    rw [(Play.log_after undergoes).1, List.reverse_append, List.reverse_reverse, record.log,
      List.append_assoc]
  opens := record.opens
  past := record.past
  recorded := recorded

/-- Reading a line is the next thing that happens in a session that waits. -/
theorem read (record : Record q opening rounds present) (prompt : Prompt) (input : Input) :
    Record (q.next (.read prompt input)) opening rounds (present ++ [.read prompt input]) := by
  have hfits : (Happening.read prompt input).Fits q := trivial
  refine record.extend (h := [.read prompt input]) ⟨hfits, trivial⟩ ?_
  exact record.recorded.next hfits (by simp [Happening.events, Event.isFlush]) (by simp)

/-- A round that is over is one of the earlier ones. -/
theorem close (record : Record q opening rounds present) (round : Round present) :
    Record q opening (rounds ++ [present]) [] where
  log := by simp [record.log]
  opens := record.opens
  past := List.forall_mem_append.2 ⟨record.past, by simpa using round⟩
  recorded := record.recorded

end Record

namespace Session

/-! ## Acts of a session -/

/-- The session with a store that accepts everything. -/
def freed (s : Session) : Session := ⟨s.play.freed, s.phase⟩

/-- What the session waits for when there is nothing left to do. -/
def settled : Act Phase := do
  return if (← get).isOver then .over none else .command

/-- The messages are shown and the store commits. -/
def closing : Act Unit := do
  display
  tell .commit

theorem finishCommand_eq_closing : finishCommand = closing >>= fun _ => settled := by
  simp [finishCommand, closing, settled]

theorem takeCommand_ended_eq :
    takeCommand .ended = exit >>= fun _ => closing >>= fun _ => pure (.over none) := by
  simp [takeCommand, closing]

/-- The store accepts the world when the messages have been shown, or refuses it. -/
theorem closing_eq (q : Play) :
    (q.Undergoes [.shown q.view, .told .commit q.world none] ∧
      closing q = (.ok (), q.after [.shown q.view, .told .commit q.world none]) ∧
      closing q.freed = (.ok (), (q.after [.shown q.view, .told .commit q.world none]).freed)) ∨
    ∃ reason, q.Undergoes [.shown q.view, .told .commit q.world (some reason)] ∧
      closing q = (.error (.store reason),
        q.after [.shown q.view, .told .commit q.world (some reason)]) := by
  have hdisplay : display q = (.ok (), q.next (.shown q.view)) := rfl
  have hfree : display q.freed = (.ok (), (q.next (.shown q.view)).freed) := rfl
  have hworld : (q.next (.shown q.view)).world = q.world := rfl
  cases hrefusal : (q.next (.shown q.view)).store.refusal?
      (q.next (.shown q.view)).calls .commit with
  | none =>
    obtain ⟨htell, htellFree⟩ := tell_accepted hrefusal
    refine .inl ⟨?_, (bind_of_ok hdisplay).trans htell, (bind_of_ok hfree).trans htellFree⟩
    simp [hworld, Happening.Fits, hrefusal]
  | some reason =>
    refine .inr ⟨reason, ?_, (bind_of_ok hdisplay).trans (tell_refused hrefusal)⟩
    simp [hworld, Happening.Fits, hrefusal]

/-! ## Chronicles -/

/-- What has happened in a session. `free` is the session that began with a store that accepts
everything. -/
structure Chronicle (s free : Session) (opening : List Event) (rounds : List (List Event))
    (present : List Event) : Prop where
  record : Record s.play opening rounds present
  suits : Present s present
  alike : (∃ reason call, s.phase = .over (some (.store reason)) ∧ Refused reason call present) ∨
    free = s.freed

/-- Up to the next wait the act has its place in a chronicle. -/
def Tells (q : Play) (opening : List Event) (act : Act Phase) : Prop :=
  ∃ rounds present, Chronicle (ofAct act q) (ofAct act q.freed) opening rounds present

variable {q q' : Play} {opening present : List Event} {rounds : List (List Event)}

/-- An act that comes to a wait or to the end of the game. -/
theorem tells_of_ok {act : Act Phase} {phase : Phase} (record : Record q opening rounds present)
    (suits : Present ⟨q, phase⟩ present) (result : act q' = (.ok phase, q))
    (free : act q'.freed = (.ok phase, q.freed)) : Tells q' opening act := by
  rw [Tells, ofAct_ok result, ofAct_ok free]
  exact ⟨rounds, present, record, suits, .inr rfl⟩

theorem tells_settled (record : Record q opening rounds []) (hview : q.view = []) :
    Tells q opening settled := by
  have hsettled : settled q = (.ok (if q.isOver then .over none else .command), q) := rfl
  have hfree : settled q.freed = (.ok (if q.isOver then .over none else .command), q.freed) := rfl
  refine tells_of_ok record ?_ hsettled hfree
  by_cases hrunning : q.status = .running
  · simpa [Play.isOver, hrunning] using Present.command ⟨hview, hrunning⟩
  · simpa [Play.isOver, hrunning] using Present.finished hview hrunning

theorem Tells.congr {act act' : Act Phase} (h : Tells q' opening act')
    (result : act q = act' q') (free : act q.freed = act' q'.freed) : Tells q opening act := by
  rwa [Tells, ofAct, result, ofAct, free]

/-- Without a failure of the store the act comes to the same end with any store. -/
theorem tells_failed {act : Act Phase} {failure : Failure}
    (record : Record q opening rounds present) (failed : Failed failure present)
    (result : act q' = (.error failure, q)) (free : act q'.freed = (.error failure, q.freed)) :
    Tells q' opening act := by
  rw [Tells, ofAct_error result, ofAct_error free]
  exact ⟨rounds, present, record, .failed failed, .inr rfl⟩

theorem tells_refused {act : Act Phase} {reason : String} {call : StoreCall}
    (record : Record q opening rounds present) (refused : Refused reason call present)
    (shown : call = .commit → q.view = []) (result : act q' = (.error (.store reason), q)) :
    Tells q' opening act := by
  rw [Tells, ofAct_error result]
  exact ⟨rounds, present, record, .refused shown refused, .inl ⟨reason, call, rfl, refused⟩⟩

/-- A round ends with a commit, or the session ends with it. -/
theorem tells_closing {k : Act Phase} (record : Record q opening rounds present)
    (hround : ∀ lines w, (∀ e ∈ lines, Event.isLine e = true) →
      Round (present ++ (lines ++ [.store .commit w none])))
    (hrefused : ∀ lines w reason, (∀ e ∈ lines, Event.isLine e = true) →
      Refused reason .commit (present ++ (lines ++ [.store .commit w (some reason)])))
    (hk : ∀ {q' : Play} {rounds : List (List Event)}, Record q' opening rounds [] →
      q'.view = [] → q'.status = q.status → Tells q' opening k) :
    Tells q opening (closing >>= fun _ => k) := by
  have hlines : ∀ e ∈ printed q.view, e.isLine = true := fun _ => isLine_of_mem_printed
  have hshown : ∀ w refusal,
      (q.after [.shown q.view, .told .commit w refusal]).view = [] ∧
        (q.after [.shown q.view, .told .commit w refusal]).status = q.status := by
    intro w refusal
    simp only [Play.after_cons, Play.after_nil, Play.next_told]
    exact ⟨rfl, rfl⟩
  -- The commit follows the lines of the messages that have waited.
  have hrecord : ∀ refusal, q.Undergoes [.shown q.view, .told .commit q.world refusal] →
      Record (q.after [.shown q.view, .told .commit q.world refusal]) opening rounds
        (present ++ (printed q.view ++ [.store .commit q.world refusal])) := by
    intro refusal fits
    obtain ⟨hview, htold, -⟩ := fits
    refine record.extend ⟨hview, htold, trivial⟩ ?_
    have hnext := record.recorded.next hview
      (fun e he => Event.isFlush_of_isLine (hlines e he)) (by simp)
    exact hnext.next htold (by simp [Happening.events, Event.isFlush]) (by simp)
  rcases closing_eq q with ⟨fits, result, free⟩ | ⟨reason, fits, result⟩
  · have hclosed := (hrecord none fits).close (hround _ _ hlines)
    obtain ⟨hview, hstatus⟩ := hshown q.world none
    exact (hk hclosed hview hstatus).congr (bind_of_ok result) (bind_of_ok free)
  · exact tells_refused (hrecord (some reason) fits) (hrefused _ _ reason hlines)
      (fun _ => (hshown _ _).1) (bind_of_error result)

/-! ## Commands -/

section

variable {line : String} (filled : line.toList.all Unicode.isWhitespace = false)
include filled

theorem tells_finishCommand {events : List Event}
    (record : Record q opening rounds (.read .command (.line line) :: events))
    (works : ∀ e ∈ events, e.Works) : Tells q opening finishCommand := by
  have hworks : ∀ lines, (∀ e ∈ lines, Event.isLine e = true) → ∀ e ∈ events ++ lines, e.Works :=
    fun lines hlines => List.forall_mem_append.2
      ⟨works, fun e he => Event.works_of_isLine (hlines e he)⟩
  rw [finishCommand_eq_closing]
  refine tells_closing record (fun lines w hlines => ?_) (fun lines w reason hlines => ?_)
    fun hrecord hview _ => tells_settled hrecord hview
  · simpa using Round.command (w := w) filled (hworks lines hlines)
  · simpa using Refused.commit (w := w) filled (hworks lines hlines)

/-- A command goes on up to the next choice or to its end. -/
theorem tells_continueCommand {events : List Event} {m : Act (Option Dialogue)}
    (record : Record q opening rounds (.read .command (.line line) :: events))
    (works : ∀ e ∈ events, e.Works) (hm : Course True True m q) (hposed : Poised m) :
    Tells q opening (m >>= continueCommand) := by
  cases hm with
  | @ends r h fits work result free =>
    have hrecord := record.extend fits (work.recorded record.recorded fits)
    have hworks := List.forall_mem_append.2 ⟨works, work.works⟩
    have hrest : Tells (q.after h) opening (continueCommand r) := by
      cases r with
      | none => exact tells_finishCommand filled hrecord hworks
      | some d => exact tells_of_ok hrecord (.choice (hposed q d _ result) filled hworks) rfl rfl
    exact hrest.congr (bind_of_ok result) (bind_of_ok free)
  | @refused reason h fits unflushed result =>
    obtain ⟨before, w, work, hevents⟩ := unflushed.exists_work
    have hrecord := record.extend fits (unflushed.recorded record.recorded fits)
    have hworks := List.forall_mem_append.2 ⟨works, work.works⟩
    rw [hevents] at hrecord
    have hrefused : Refused reason .flush (.read .command (.line line) ::
        (events ++ (before.flatMap Happening.events ++ [.store .flush w (some reason)]))) := by
      rw [← List.append_assoc]
      exact .flush filled hworks
    exact tells_refused hrecord hrefused nofun (bind_of_error result)
  | @fails failure h fits broken result free =>
    obtain ⟨before, work, hevents⟩ := broken.exists_work
    have hrecord := record.extend fits (broken.recorded record.recorded fits)
    rw [hevents] at hrecord
    have hworks := List.forall_mem_append.2 ⟨works, work.works⟩
    exact tells_failed hrecord (.command filled hworks) (bind_of_error result) (bind_of_error free)

end

/-- What happens at the main prompt after a line has been read. -/
theorem tells_takeCommand (input : Input)
    (record : Record q opening rounds [.read .command input]) (hready : q.Ready) :
    Tells q opening (takeCommand input) := by
  cases input with
  | broken text => exact tells_failed record (.input text) rfl rfl
  | ended =>
    rw [takeCommand_ended_eq]
    obtain ⟨item, hexit, hfree⟩ : ∃ item, exit q = (.ok (), q.after [.said item, .left]) ∧
        exit q.freed = (.ok (), (q.after [.said item, .left]).freed) := ⟨_, rfl, rfl⟩
    have hfits : q.Undergoes [.said item, .left] := by simp [Happening.Fits]
    have hwork : Work False False False [.said item, .left] := .quiet trivial (.single trivial)
    have hrecord := record.extend hfits (hwork.recorded record.recorded hfits)
    refine Tells.congr ?_ (bind_of_ok hexit) (bind_of_ok hfree)
    refine tells_closing hrecord (fun _ _ => .leave) (fun _ _ _ => .leave) ?_
    intro q' rounds record hview hstatus
    have hquit : q'.status = .quit := hstatus
    exact tells_of_ok record (.finished hview (by simp [hquit])) rfl rfl
  | interrupt =>
    have hfits : q.Undergoes [.said (.engineMessage "Command canceled."),
        .shown (q.view ++ [.engineMessage "Command canceled."])] := by
      simp [Happening.Fits, Play.next, Act.push, Play.say]
    have hwork : Work False False False [.said (.engineMessage "Command canceled."),
        .shown (q.view ++ [.engineMessage "Command canceled."])] :=
      .quiet trivial (.single trivial)
    have hrecord := record.extend hfits (hwork.recorded record.recorded hfits)
    exact tells_of_ok (hrecord.close (.interrupt hwork.lines)) (.command ⟨rfl, hready.2⟩) rfl rfl
  | line line =>
    rw [takeCommand]
    by_cases hblank : line.toList.all Unicode.isWhitespace = true
    · rw [if_pos hblank]
      exact tells_of_ok (record.close (.blank hblank)) (.command hready) rfl rfl
    · rw [if_neg hblank]
      have filled : line.toList.all Unicode.isWhitespace = false := by simpa using hblank
      exact tells_continueCommand filled record (by simp) ((made_execute trivial line).course q)
        (poised_execute line)

/-! ## Steps -/

variable {s free : Session}

/-- Each input carries the chronicle on. -/
theorem Chronicle.step (h : Chronicle s free opening rounds present) (input : Input) :
    ∃ rounds present, Chronicle (s.step input) (free.step input) opening rounds present := by
  rcases h.alike with ⟨reason, call, hover, hrefused⟩ | rfl
  · obtain ⟨q, phase⟩ := s
    obtain rfl : phase = .over (some (.store reason)) := hover
    exact ⟨rounds, present, h.record, h.suits, .inl ⟨reason, call, rfl, hrefused⟩⟩
  have hrecord := h.record
  cases h.suits with
  | @command q ready =>
    have htells := tells_takeCommand input (hrecord.read .command input) ready
    exact htells.congr rfl rfl
  | @choice q d line events ready filled works =>
    have hworks : ∀ e ∈ events ++ [.read .choice input], Event.Works e :=
      List.forall_mem_append.2 ⟨works, by simp [Event.Works]⟩
    have htells := tells_continueCommand filled (hrecord.read .choice input) hworks
      ((d.made_answer input).course _) (poised_answer d input)
    exact htells.congr rfl rfl
  | finished shown ended => exact ⟨rounds, [], hrecord, .finished shown ended, .inr rfl⟩
  | refused shown refused => exact ⟨rounds, present, hrecord, .refused shown refused, .inr rfl⟩
  | failed failed => exact ⟨rounds, present, hrecord, .failed failed, .inr rfl⟩

/-- So do several inputs. -/
theorem Chronicle.foldl (h : Chronicle s free opening rounds present) (inputs : List Input) :
    ∃ rounds present, Chronicle (inputs.foldl Session.step s) (inputs.foldl Session.step free)
      opening rounds present := by
  induction inputs generalizing s free rounds present with
  | nil => exact ⟨rounds, present, h⟩
  | cons input inputs ih =>
    obtain ⟨rounds, present, h⟩ := h.step input
    exact ih h

/-! ## Whole sessions -/

/-- The session in which a play goes on, if it does. -/
def resume (p : Play) : Session :=
  ofAct (Session.opening >>= fun _ => settled) p

/-- A game begins with a play that goes on. -/
theorem start_eq (w : World) (store : Store) : start w store = resume { world := w, store } := by
  rw [start, resume, ofAct, ofAct]
  rcases hopening : opening { world := w, store } with ⟨failure | phase, q⟩
  · rw [bind_of_error hopening]
  · obtain ⟨rfl, -, hstatus⟩ := opening_ok hopening
    have hsettled : settled q = (.ok .command, q) := by
      have hrunning : q.isOver = false := by simp [Play.isOver, hstatus]
      change (Except.ok (if q.isOver then Phase.over none else .command), q) = _
      rw [hrunning]
      rfl
    rw [bind_of_ok hopening, hsettled]

/-- A session begins with its opening. -/
theorem chronicle_resume {p : Play} (hlog : p.log = []) (recorded : p.Recorded) :
    ∃ opening rounds present, Chronicle (resume p) (resume p.freed) opening rounds present := by
  have hcourse : Course False False Session.opening p := made_opening.course p
  cases hcourse with
  | @ends phase h fits work result free =>
    have hrecord : Record (p.after h) (h.flatMap Happening.events) [] [] :=
      ⟨by simp [(Play.log_after fits).1, hlog], work.lines, by simp, work.recorded recorded fits⟩
    have hview : (p.after h).view = [] := (opening_ok result).2.1
    exact ⟨_, (tells_settled hrecord hview).congr (bind_of_ok result) (bind_of_ok free)⟩
  | refused _ unflushed => obtain ⟨⟨⟩, -⟩ := unflushed
  | @fails failure h fits broken result free =>
    obtain ⟨before, work, hevents⟩ := broken.exists_work
    have hrecord : Record (p.after h) [] [] (before.flatMap Happening.events) :=
      ⟨by simp [(Play.log_after fits).1, hlog, hevents], by simp, by simp,
        broken.recorded recorded fits⟩
    exact ⟨[], tells_failed hrecord (.opening work.lines) (bind_of_error result)
      (bind_of_error free)⟩

/-- Every session can be told, as far as its inputs have carried it. -/
theorem exists_chronicle {p : Play} (hlog : p.log = []) (recorded : p.Recorded)
    (inputs : List Input) : ∃ opening rounds present, Chronicle (inputs.foldl step (resume p))
      (inputs.foldl step (resume p.freed)) opening rounds present := by
  obtain ⟨opening, rounds, present, h⟩ := chronicle_resume hlog recorded
  exact ⟨opening, h.foldl inputs⟩

end Session

end Adventure
