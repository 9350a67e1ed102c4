import Adventure.Proofs.Steps
import Adventure.Proofs.Workings

/-!
# Histories

What happens in a play is listed one thing at a time (`Happening`). A list of happenings leads from
a play to a later one (`Play.after`); it is a history of the play if each of its happenings fits the
play that the earlier ones have led to (`Play.Undergoes`).

Every act that is put together from single ones leaves a history behind, whether it fails or not
(`Act.Made.course`). An action that takes effect is followed at once by the store being told of the
world. Where the store refuses the world, or something else fails, the history ends there; and if it
is not for the store, the act does the same with a store that accepts everything.
-/

namespace Adventure

/-! ## Effects -/

/-- What an effect has to say where it ends the game. -/
def closingWords (game : Game) : Effect EntityId ObjectRef → List ViewItem
  | .endGame text => [.gameEnded (Act.closingText game text)]
  | _ => []

/-- Whether the game goes on after an effect. -/
def Status.after (status : Status) : Effect EntityId ObjectRef → Status
  | .endGame _ => .gameOver
  | _ => status

namespace Act

open Steps

variable {effect : Effect EntityId ObjectRef} {p : Play}

/-- An effect that succeeds changes the world and may end the game. -/
theorem perform_of_ok (h : (Edit.apply effect p.world).1 = .ok ()) :
    perform effect p = (.ok (), { p.say (closingWords p.world.game effect) with
      world := (Edit.apply effect p.world).2
      status := p.status.after effect }) := by
  have hedit : edit (Edit.apply effect) p
      = (.ok (), { p with world := (Edit.apply effect p.world).2 }) := by
    simp [edit, h]
  unfold perform
  rw [bind_of_ok hedit]
  cases effect with
  | endGame text => rfl
  | _ => simp [closingWords, Status.after, Play.say]

/-- An effect that fails may have changed the world by then. -/
theorem perform_of_error {failure : Failure} (h : (Edit.apply effect p.world).1 = .error failure) :
    perform effect p = (.error failure, { p with world := (Edit.apply effect p.world).2 }) := by
  have hedit : edit (Edit.apply effect) p
      = (.error failure, { p with world := (Edit.apply effect p.world).2 }) := by
    simp [edit, h]
  exact bind_of_error hedit

/-- An effect that succeeds leaves the store and the log as they are. -/
theorem perform_eq (effect : Effect EntityId ObjectRef) (p : Play) :
    (∃ p', perform effect p = (.ok (), p') ∧ Edit.apply effect p.world = (.ok (), p'.world) ∧
      p'.store = p.store ∧ p'.log = p.log) ∨
    ∃ failure, (Edit.apply effect p.world).1 = .error failure ∧
      perform effect p = (.error failure, { p with world := (Edit.apply effect p.world).2 }) := by
  cases happly : (Edit.apply effect p.world).1 with
  | ok => exact .inl ⟨_, perform_of_ok happly, Prod.ext happly rfl, rfl, rfl⟩
  | error failure => exact .inr ⟨failure, rfl, perform_of_error happly⟩

variable {action : World.Action}

theorem enact_of_ok (h : (Edit.apply action.effect p.world).1 = .ok ()) :
    enact action p = (.ok (), { p.say (closingWords p.world.game action.effect) with
      world := (Edit.apply action.effect p.world).2
      status := p.status.after action.effect
      deeds := ⟨action, p.world, p.log.length⟩ :: p.deeds }) := by
  have hworld : world p = (.ok p.world, p) := rfl
  rw [enact, bind_of_ok hworld, bind_of_ok (perform_of_ok h)]
  rfl

theorem enact_of_error {failure : Failure}
    (h : (Edit.apply action.effect p.world).1 = .error failure) :
    enact action p
      = (.error failure, { p with world := (Edit.apply action.effect p.world).2 }) := by
  have hworld : world p = (.ok p.world, p) := rfl
  rw [enact, bind_of_ok hworld, bind_of_error (perform_of_error h)]

end Act

/-! ## Happenings -/

/-- What happens in a play in one go. -/
inductive Happening
  /-- The player is asked for a line. -/
  | read (prompt : Prompt) (input : Input)
  /-- A line is read as a command. -/
  | parsed (line : String)
  /-- A message is added to those that wait. -/
  | said (item : ViewItem)
  /-- The messages that wait are shown. -/
  | shown (items : List ViewItem)
  /-- An action takes effect. -/
  | did (id : EntityId .action) (action : World.Action)
  /-- A choice is not offered any more. -/
  | withdrew (id : EntityId .choice)
  /-- The player leaves the game. -/
  | left
  /-- The store is told of the world and accepts, or refuses and says why. -/
  | told (call : StoreCall) (world : World) (refusal : Option String)
  /-- Something fails before it changes anything. -/
  | halted (failure : Failure)
  /-- An effect fails and leaves the world as it is by then. -/
  | spoiled (failure : Failure) (world : World)

namespace Play

/-- The play after a happening. -/
def next (p : Play) : Happening → Play
  | .read prompt input => (Act.log (.read prompt input) p).2
  | .parsed line => (Act.parse line p).2
  | .said item => (Act.push item p).2
  | .shown _ => (Act.display p).2
  | .did _ action => (Act.enact action p).2
  | .withdrew id => (Act.edit (Edit.change id fun c => { c with enabled := false }) p).2
  | .left => (Act.finish .quit p).2
  | .told call _ _ => (Act.tell call p).2
  | .halted _ => p
  | .spoiled _ w => { p with world := w }

/-- The play after some happenings. -/
def after (p : Play) (h : List Happening) : Play := h.foldl next p

@[simp] theorem after_nil (p : Play) : p.after [] = p := rfl

@[simp] theorem after_cons (p : Play) (e : Happening) (h : List Happening) :
    p.after (e :: h) = (p.next e).after h := rfl

@[simp] theorem after_append (p : Play) (h h' : List Happening) :
    p.after (h ++ h') = (p.after h).after h' := List.foldl_append

end Play

namespace Happening

/-- A happening tells of the play in which it happens. Only enabled actions that are not made up of
others take effect. -/
def Fits (p : Play) : Happening → Prop
  | .read _ _ | .parsed _ | .said _ | .left | .halted _ => True
  | .shown items => items = p.view
  | .did id action =>
    p.world.get? id = some action ∧ action.parts? = none ∧ action.enabled = true ∧
      (Edit.apply action.effect p.world).1 = .ok ()
  | .withdrew id => ∃ choice, p.world.get? id = some choice
  | .told call w refusal => w = p.world ∧ refusal = p.store.refusal? p.calls call
  | .spoiled failure w =>
    ∃ action : World.Action, Edit.apply action.effect p.world = (.error failure, w)

/-- What the outside sees of a happening. -/
def events : Happening → List Event
  | .read prompt input => [.read prompt input]
  | .shown items => Act.printed items
  | .told call w refusal => [.store call w refusal]
  | _ => []

/-- A happening that neither changes the world nor passes between the engine and the player or the
store, unless messages are shown. -/
def Quiet : Happening → Prop
  | .parsed _ | .said _ | .shown _ | .left => True
  | .read _ _ | .did .. | .withdrew _ | .told .. | .halted _ | .spoiled .. => False

end Happening

namespace Play

/-- The happenings may happen in the play, one after the other. -/
def Undergoes : Play → List Happening → Prop
  | _, [] => True
  | p, e :: h => e.Fits p ∧ (p.next e).Undergoes h

@[simp] theorem undergoes_nil (p : Play) : p.Undergoes [] := trivial

@[simp] theorem undergoes_cons {p : Play} {e : Happening} {h : List Happening} :
    p.Undergoes (e :: h) ↔ e.Fits p ∧ (p.next e).Undergoes h := .rfl

@[simp] theorem undergoes_append {p : Play} {h h' : List Happening} :
    p.Undergoes (h ++ h') ↔ p.Undergoes h ∧ (p.after h).Undergoes h' := by
  induction h generalizing p with
  | nil => simp
  | cons e h ih => simp [ih, and_assoc]

theorem next_did {p : Play} {id : EntityId .action} {action : World.Action}
    (h : (Happening.did id action).Fits p) :
    p.next (.did id action) = { p.say (closingWords p.world.game action.effect) with
      world := (Edit.apply action.effect p.world).2
      status := p.status.after action.effect
      deeds := ⟨action, p.world, p.log.length⟩ :: p.deeds } := by
  obtain ⟨-, -, -, hdone⟩ := h
  rw [next, Act.enact_of_ok hdone]

/-- Reading a line may add to the patterns that are kept. -/
theorem next_parsed (p : Play) (line : String) :
    p.next (.parsed line) = { p with cache := (Act.parse line p).2.cache } := by
  simp only [next, Act.parse]

theorem next_told (p : Play) (call : StoreCall) (w : World) (refusal : Option String) :
    p.next (.told call w refusal) =
      { p with log := .store call p.world (p.store.refusal? p.calls call) :: p.log } := by
  rw [next, Act.tell]
  cases p.store.refusal? p.calls call <;> rfl

/-- A happening leaves the store as it is and logs what the outside sees of it. -/
theorem log_next {p : Play} {e : Happening} (h : e.Fits p) :
    (p.next e).log = e.events.reverse ++ p.log ∧ (p.next e).store = p.store := by
  cases e with
  | did id action => rw [next_did h]; exact ⟨rfl, rfl⟩
  | shown items =>
    obtain rfl := h
    exact ⟨rfl, rfl⟩
  | told call w refusal =>
    obtain ⟨rfl, rfl⟩ := h
    rw [next_told]
    exact ⟨rfl, rfl⟩
  | parsed line => rw [next_parsed]; exact ⟨rfl, rfl⟩
  | _ => exact ⟨rfl, rfl⟩

theorem log_after {p : Play} {h : List Happening} (hh : p.Undergoes h) :
    (p.after h).log = (h.flatMap Happening.events).reverse ++ p.log ∧
      (p.after h).store = p.store := by
  induction h generalizing p with
  | nil => simp
  | cons e h ih =>
    obtain ⟨hfits, hrest⟩ := undergoes_cons.1 hh
    obtain ⟨hlog, hstore⟩ := log_next hfits
    obtain ⟨hlog', hstore'⟩ := ih hrest
    simp [hlog, hstore, hlog', hstore']

end Play

/-! ## Work -/

/-- What happens while a command is carried out. Every action that takes effect is followed at once
by a flush that the store accepts. Actions, withdrawals and lines of a conversation occur only where
they may. -/
inductive Work (acts withdraws answers : Prop) : List Happening → Prop
  | nil : Work acts withdraws answers []
  | quiet {e : Happening} {h : List Happening} (quiet : e.Quiet)
      (rest : Work acts withdraws answers h) : Work acts withdraws answers (e :: h)
  | deed {id : EntityId .action} {action : World.Action} {w : World} {h : List Happening}
      (allowed : acts) (rest : Work acts withdraws answers h) :
      Work acts withdraws answers (.did id action :: .told .flush w none :: h)
  | withdrawal {id : EntityId .choice} {h : List Happening} (allowed : withdraws)
      (rest : Work acts withdraws answers h) : Work acts withdraws answers (.withdrew id :: h)
  | answer {input : Input} {h : List Happening} (allowed : answers)
      (rest : Work acts withdraws answers h) :
      Work acts withdraws answers (.read .choice input :: h)

/-- An action takes effect in the course of work and the store refuses the world. -/
inductive Unflushed (acts withdraws answers : Prop) (reason : String) : List Happening → Prop
  | mk {h : List Happening} {id : EntityId .action} {action : World.Action} {w : World}
      (allowed : acts) (work : Work acts withdraws answers h) :
      Unflushed acts withdraws answers reason (h ++ [.did id action, .told .flush w (some reason)])

/-- Something fails in the course of work. -/
inductive Broken (acts withdraws answers : Prop) (failure : Failure) : List Happening → Prop
  | halted {h : List Happening} (work : Work acts withdraws answers h) :
      Broken acts withdraws answers failure (h ++ [.halted failure])
  | spoiled {h : List Happening} {w : World} (allowed : acts)
      (work : Work acts withdraws answers h) :
      Broken acts withdraws answers failure (h ++ [.spoiled failure w])

namespace Work

variable {acts withdraws answers acts' withdraws' answers' : Prop} {h h' : List Happening}

theorem append (hw : Work acts withdraws answers h) (hw' : Work acts withdraws answers h') :
    Work acts withdraws answers (h ++ h') := by
  induction hw with
  | nil => exact hw'
  | quiet quiet _ ih => exact .quiet quiet ih
  | deed allowed _ ih => exact .deed allowed ih
  | withdrawal allowed _ ih => exact .withdrawal allowed ih
  | answer allowed _ ih => exact .answer allowed ih

theorem mono (hw : Work acts withdraws answers h) (hacts : acts → acts')
    (hwithdraws : withdraws → withdraws') (hanswers : answers → answers') :
    Work acts' withdraws' answers' h := by
  induction hw with
  | nil => exact .nil
  | quiet quiet _ ih => exact .quiet quiet ih
  | deed allowed _ ih => exact .deed (hacts allowed) ih
  | withdrawal allowed _ ih => exact .withdrawal (hwithdraws allowed) ih
  | answer allowed _ ih => exact .answer (hanswers allowed) ih

theorem single {e : Happening} (quiet : e.Quiet) : Work acts withdraws answers [e] :=
  .quiet quiet .nil

end Work

theorem Unflushed.append {acts withdraws answers : Prop} {reason : String}
    {h h' : List Happening} (hw : Work acts withdraws answers h)
    (hu : Unflushed acts withdraws answers reason h') :
    Unflushed acts withdraws answers reason (h ++ h') := by
  obtain ⟨allowed, work⟩ := hu
  rw [← List.append_assoc]
  exact .mk allowed (hw.append work)

theorem Unflushed.mono {acts withdraws answers acts' withdraws' answers' : Prop}
    {reason : String} {h : List Happening} (hu : Unflushed acts withdraws answers reason h)
    (hacts : acts → acts') (hwithdraws : withdraws → withdraws') (hanswers : answers → answers') :
    Unflushed acts' withdraws' answers' reason h := by
  obtain ⟨allowed, work⟩ := hu
  exact .mk (hacts allowed) (work.mono hacts hwithdraws hanswers)

theorem Broken.mono {acts withdraws answers acts' withdraws' answers' : Prop}
    {failure : Failure} {h : List Happening} (hb : Broken acts withdraws answers failure h)
    (hacts : acts → acts') (hwithdraws : withdraws → withdraws') (hanswers : answers → answers') :
    Broken acts' withdraws' answers' failure h := by
  rcases hb with work | ⟨allowed, work⟩
  · exact .halted (work.mono hacts hwithdraws hanswers)
  · exact .spoiled (hacts allowed) (work.mono hacts hwithdraws hanswers)

theorem Broken.append {acts withdraws answers : Prop} {failure : Failure}
    {h h' : List Happening} (hw : Work acts withdraws answers h)
    (hb : Broken acts withdraws answers failure h') :
    Broken acts withdraws answers failure (h ++ h') := by
  rcases hb with work | ⟨allowed, work⟩ <;> rw [← List.append_assoc]
  · exact .halted (hw.append work)
  · exact .spoiled allowed (hw.append work)

/-! ## Courses -/

/-- The play with a store that accepts everything. -/
def Play.freed (p : Play) : Play := { p with store := .accepting }

namespace Act

open Steps

variable {α β : Type} {acts withdraws : Prop}

/-- What comes of an act. Unless the store refuses something, it does not matter what the store
is. -/
inductive Course (acts withdraws : Prop) (m : Act α) (p : Play) : Prop
  | ends {a : α} {h : List Happening} (fits : p.Undergoes h) (work : Work acts withdraws False h)
      (result : m p = (.ok a, p.after h)) (free : m p.freed = (.ok a, (p.after h).freed))
  | refused {reason : String} {h : List Happening} (fits : p.Undergoes h)
      (unflushed : Unflushed acts withdraws False reason h)
      (result : m p = (.error (.store reason), p.after h))
  | fails {failure : Failure} {h : List Happening} (fits : p.Undergoes h)
      (broken : Broken acts withdraws False failure h)
      (result : m p = (.error failure, p.after h))
      (free : m p.freed = (.error failure, (p.after h).freed))

namespace Course

/-- What an act leaves behind is a history of the play. -/
theorem exists_after {m : Act α} {p : Play} (h : Course acts withdraws m p) :
    ∃ history, p.Undergoes history ∧ (m p).2 = p.after history := by
  cases h with
  | ends fits _ result => exact ⟨_, fits, by rw [result]⟩
  | refused fits _ result => exact ⟨_, fits, by rw [result]⟩
  | fails fits _ result => exact ⟨_, fits, by rw [result]⟩

theorem bind {m : Act α} {f : α → Act β} {p : Play} (hm : Course acts withdraws m p)
    (hf : ∀ a q, Course acts withdraws (f a) q) : Course acts withdraws (m >>= f) p := by
  cases hm with
  | @ends a h fits work result free =>
    have hsequence : (m >>= f) p = f a (p.after h) := bind_of_ok result
    have hfree : (m >>= f) p.freed = f a (p.after h).freed := bind_of_ok free
    cases hf a (p.after h) with
    | ends fits' work' result' free' =>
      rw [← Play.after_append] at result' free'
      exact .ends (Play.undergoes_append.2 ⟨fits, fits'⟩) (work.append work')
        (hsequence.trans result') (hfree.trans free')
    | refused fits' unflushed' result' =>
      rw [← Play.after_append] at result'
      exact .refused (Play.undergoes_append.2 ⟨fits, fits'⟩) (unflushed'.append work)
        (hsequence.trans result')
    | fails fits' broken' result' free' =>
      rw [← Play.after_append] at result' free'
      exact .fails (Play.undergoes_append.2 ⟨fits, fits'⟩) (broken'.append work)
        (hsequence.trans result') (hfree.trans free')
  | refused fits unflushed result => exact .refused fits unflushed (bind_of_error result)
  | fails fits broken result free =>
    exact .fails fits broken (bind_of_error result) (bind_of_error free)

/-- A single act that does not fail. -/
theorem single {m : Act α} {p : Play} {a : α} {e : Happening} (fits : e.Fits p) (quiet : e.Quiet)
    (result : m p = (.ok a, p.next e)) (free : m p.freed = (.ok a, (p.next e).freed)) :
    Course acts withdraws m p :=
  .ends (h := [e]) (by simp [fits]) (.single quiet) result free

/-- An act that fails after some work and changes nothing more. -/
theorem halt {m : Act α} {p : Play} {failure : Failure} {h : List Happening}
    (fits : p.Undergoes h) (work : Work acts withdraws False h)
    (result : m p = (.error failure, p.after h))
    (free : m p.freed = (.error failure, (p.after h).freed)) : Course acts withdraws m p := by
  have hafter : p.after (h ++ [.halted failure]) = p.after h := Play.after_append ..
  refine .fails (h := h ++ [.halted failure]) ?_ (.halted work) ?_ ?_
  · simp [fits, Happening.Fits]
  · rw [hafter, result]
  · rw [hafter, free]

end Course

/-- It only matters what the act does in the play. -/
theorem Course.congr {m m' : Act α} {p : Play} (h : Course acts withdraws m' p) (heq : m p = m' p)
    (hfree : m p.freed = m' p.freed) : Course acts withdraws m p := by
  cases h with
  | ends fits work result free => exact .ends fits work (heq.trans result) (hfree.trans free)
  | refused fits unflushed result => exact .refused fits unflushed (heq.trans result)
  | fails fits broken result free =>
    exact .fails fits broken (heq.trans result) (hfree.trans free)

/-! ## Single acts -/

theorem course_look (f : World → Except Failure α) (p : Play) :
    Course acts withdraws (look f) p := by
  have hlook : look f p = (f p.world, p) := rfl
  have hfree : look f p.freed = (f p.world, p.freed) := rfl
  cases hresult : f p.world with
  | ok a =>
    rw [hresult] at hlook hfree
    exact .ends (h := []) (by simp) .nil hlook hfree
  | error failure =>
    rw [hresult] at hlook hfree
    exact .halt (h := []) (by simp) .nil hlook hfree

theorem course_parse (line : String) (p : Play) : Course acts withdraws (parse line) p := by
  have hfits : p.Undergoes [.parsed line] := by simp [Happening.Fits]
  have hnext : p.after [.parsed line] = (parse line p).2 := rfl
  have hfree : parse line p.freed = ((parse line p).1, (parse line p).2.freed) := by
    simp only [parse, Play.freed]
  rcases hparse : parse line p with ⟨failure | command, p'⟩ <;> rw [hparse] at hnext hfree
  · exact .halt hfits (.single trivial) (by rw [hparse, hnext]) (by rw [hfree, hnext])
  · exact .ends hfits (.single trivial) (by rw [hparse, hnext]) (by rw [hfree, hnext])

theorem course_withdraw (allowed : withdraws) (id : EntityId .choice) (p : Play) :
    Course acts withdraws (edit (Edit.change id fun c => { c with enabled := false })) p := by
  cases hfound : p.world.get? id with
  | none =>
    have halts : ∀ q : Play, q.world = p.world →
        edit (Edit.change id fun c => { c with enabled := false }) q
          = (.error (.unknownEntity .choice id.uuid), q) := by
      intro q hworld
      have herror : Edit.change id (fun c => { c with enabled := false }) q.world
          = (.error (.unknownEntity .choice id.uuid), q.world) := by
        simp [Edit.change, World.find, hworld, hfound]
      rw [edit, herror]
    exact .halt (h := []) (by simp) .nil (halts p rfl) (halts p.freed rfl)
  | some choice =>
    refine .ends (a := ()) (h := [.withdrew id]) ?_ (.withdrawal allowed .nil) ?_ ?_
    · simp [Happening.Fits, hfound]
    all_goals simp [Play.next, edit, Edit.change, World.find, hfound, Play.freed]

theorem tell_accepted {p : Play} {call : StoreCall}
    (h : p.store.refusal? p.calls call = none) :
    tell call p = (.ok (), p.next (.told call p.world none)) ∧
      tell call p.freed = (.ok (), (p.next (.told call p.world none)).freed) := by
  rw [Play.next_told, h]
  simp [tell, h, Play.freed, Store.accepting]

theorem tell_refused {p : Play} {call : StoreCall} {reason : String}
    (h : p.store.refusal? p.calls call = some reason) :
    tell call p = (.error (.store reason), p.next (.told call p.world (some reason))) := by
  rw [Play.next_told, h]
  simp [tell, h]

theorem enact_fits {p : Play} {id : EntityId .action} {action : World.Action}
    (h : (Happening.did id action).Fits p) :
    enact action p = (.ok (), p.next (.did id action)) ∧
      enact action p.freed = (.ok (), (p.next (.did id action)).freed) := by
  have hfree := enact_of_ok (p := p.freed) h.2.2.2
  rw [Play.next_did h, enact_of_ok h.2.2.2]
  exact ⟨rfl, hfree⟩

/-- When an action has taken effect the store is told at once. -/
theorem course_deed (allowed : acts) {p : Play} {id : EntityId .action} {action : World.Action}
    (h : (Happening.did id action).Fits p) :
    Course acts withdraws (do enact action; tell .flush) p := by
  obtain ⟨henact, hfree⟩ := enact_fits h
  have hafter (e : Happening) : p.after [.did id action, e] = (p.next (.did id action)).next e :=
    rfl
  have hfits : ∀ e : Happening, e.Fits (p.next (.did id action)) →
      p.Undergoes [.did id action, e] := fun e he =>
    Play.undergoes_cons.2 ⟨h, Play.undergoes_cons.2 ⟨he, Play.undergoes_nil _⟩⟩
  cases hrefusal : (p.next (.did id action)).store.refusal?
      (p.next (.did id action)).calls .flush with
  | none =>
    obtain ⟨htell, htellFree⟩ := tell_accepted hrefusal
    rw [← hafter] at htell htellFree
    refine .ends (hfits _ ?_) (.deed allowed .nil) ((bind_of_ok henact).trans htell)
      ((bind_of_ok hfree).trans htellFree)
    exact ⟨rfl, hrefusal.symm⟩
  | some reason =>
    have htell := tell_refused hrefusal
    rw [← hafter] at htell
    refine .refused (hfits _ ?_) (.mk (h := []) allowed .nil) ((bind_of_ok henact).trans htell)
    exact ⟨rfl, hrefusal.symm⟩

theorem course_runSingle (allowed : acts) {p : Play} {id : EntityId .action}
    {action : World.Action} (found : p.world.get? id = some action)
    (single : action.parts? = none) : Course acts withdraws (runSingle action) p := by
  unfold runSingle
  by_cases enabled : action.enabled = true
  · rw [if_pos enabled]
    rcases happly : Edit.apply action.effect p.world with ⟨failure | _, w⟩
    · have herror : (Edit.apply action.effect p.world).1 = .error failure := by rw [happly]
      have hafter : p.after [.spoiled failure w]
          = { p with world := (Edit.apply action.effect p.world).2 } := by rw [happly]; rfl
      have hfits : (Happening.spoiled failure w).Fits p := ⟨action, happly⟩
      refine .fails (Play.undergoes_cons.2 ⟨hfits, Play.undergoes_nil _⟩)
        (.spoiled (h := []) allowed .nil) ?_ ?_ <;> rw [hafter]
      · exact bind_of_error (enact_of_error herror)
      · exact bind_of_error (enact_of_error (p := p.freed) herror)
    · exact course_deed allowed ⟨found, single, enabled, by rw [happly]⟩
  · rw [if_neg enabled]
    exact .ends (h := []) (by simp) .nil rfl rfl

/-- Acts that are put together from single ones leave histories behind. -/
theorem Made.course {m : Act α} (h : Made acts withdraws True m) :
    ∀ p, Course acts withdraws m p := by
  induction h with
  | pure a => exact fun p => .ends (h := []) (by simp) .nil rfl rfl
  | bind _ _ ihm ihf => exact fun p => (ihm p).bind ihf
  | look f => exact course_look f
  | push item => exact fun p => .single (e := .said item) trivial trivial rfl rfl
  | display => exact fun p => .single (e := .shown p.view) rfl trivial rfl rfl
  | parse _ line => exact course_parse line
  | quit => exact fun p => .single (e := .left) trivial trivial rfl rfl
  | @whenOver _ m m' _ _ ih ih' =>
    intro p
    have hfree : (get >>= fun p : Play => if p.isOver then m else m') p.freed
        = (if p.freed.isOver then m else m') p.freed := bind_of_ok (get_eq p.freed)
    have hcourse : Course acts withdraws (if p.isOver then m else m') p := by
      split
      · exact ih p
      · exact ih' p
    exact hcourse.congr (bind_of_ok (get_eq p)) hfree
  | @run allowed id f _ single ih =>
    intro p
    cases hfound : p.world.get? id with
    | none =>
      exact .halt (h := []) (by simp) .nil (bind_of_error (find_absent hfound))
        (bind_of_error (find_absent (p := p.freed) hfound))
    | some action =>
      have hcourse : Course acts withdraws (f action) p := by
        cases hparts : action.parts? with
        | some parts => exact ih action (by simp [hparts]) p
        | none =>
          rw [single action hparts]
          exact course_runSingle allowed hfound hparts
      exact hcourse.congr (bind_of_ok (find_present hfound))
        (bind_of_ok (find_present (p := p.freed) hfound))
  | withdraw allowed id => exact course_withdraw allowed id

end Act

end Adventure
