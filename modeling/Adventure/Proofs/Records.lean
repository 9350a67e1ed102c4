import Adventure.Proofs.Histories

/-!
# What is on record

A play keeps all messages and all actions that have taken effect (`Play.said`, `Play.deeds`). In a
play whose records are in order (`Play.Recorded`), four things agree:

* the lines that have been printed are those of all messages but the ones that still wait;
* deeds and calls to flush belong together one by one: the action has taken effect when as many
  events had been logged as before the call, and the store is told of the world that has come of it;
* each call has been answered as the store answers it;
* while the game goes on no action has ended it.

Whatever an act that is put together from single ones does to a play, it leaves the records in
order, whether it succeeds, the store refuses something or something else fails
(`Work.recorded`, `Unflushed.recorded`, `Broken.recorded`).
-/

namespace Adventure

/-! ## Messages -/

/-- A line that is printed. -/
def Event.isLine : Event → Bool
  | line _ _ => true
  | _ => false

namespace Act

theorem isLine_of_mem_printed {items : List ViewItem} {e : Event} (h : e ∈ printed items) :
    e.isLine = true := by
  obtain ⟨item, -, hline⟩ := List.mem_flatMap.1 h
  obtain ⟨text, -, rfl⟩ := List.mem_map.1 hline
  rfl

theorem printed_append (items items' : List ViewItem) :
    printed (items ++ items') = printed items ++ printed items' :=
  List.flatMap_append

end Act

namespace Play

/-- The lines that have been printed and the messages that wait make up all that was said, each
message once and in order. -/
def Shown (p : Play) : Prop :=
  p.log.reverse.filter Event.isLine ++ Act.printed p.view = Act.printed p.said

variable {p q : Play}

theorem Shown.congr (h : p.Shown) (log : q.log = p.log) (view : q.view = p.view)
    (said : q.said = p.said) : q.Shown := by
  rw [Shown, log, view, said]
  exact h

theorem Shown.say (h : p.Shown) (items : List ViewItem) : (p.say items).Shown := by
  rw [Shown, Play.say, Act.printed_append, Act.printed_append, ← List.append_assoc]
  exact congrArg (· ++ Act.printed items) h

theorem Shown.display (h : p.Shown) : (Act.display p).2.Shown := by
  have hlines : (Act.printed p.view).filter Event.isLine = Act.printed p.view :=
    List.filter_eq_self.2 fun _ => Act.isLine_of_mem_printed
  change (((Act.printed p.view).reverse ++ p.log).reverse.filter Event.isLine
    ++ Act.printed []) = Act.printed p.said
  rw [List.reverse_append, List.reverse_reverse, List.filter_append, hlines]
  exact (List.append_nil _).trans h

/-- An event that is no line does not matter. -/
theorem Shown.log (h : p.Shown) {e : Event} (he : e.isLine = false) (log : q.log = e :: p.log)
    (view : q.view = p.view) (said : q.said = p.said) : q.Shown := by
  have hlines : [e].filter Event.isLine = [] := by simp [he]
  rw [Shown, log, view, said, List.reverse_cons, List.filter_append, hlines, List.append_nil]
  exact h

/-- Whatever happens, nothing that was said is lost or said twice. -/
theorem Shown.next (h : p.Shown) {e : Happening} (hfits : e.Fits p) : (p.next e).Shown := by
  cases e with
  | said item => exact h.say [item]
  | shown items => exact h.display
  | did id action =>
    rw [next_did hfits]
    exact (h.say (closingWords p.world.game action.effect)).congr rfl rfl rfl
  | read prompt input => exact h.log (e := .read prompt input) rfl rfl rfl rfl
  | told call w refusal =>
    rw [next_told]
    exact h.log (e := .store call p.world (p.store.refusal? p.calls call)) rfl rfl rfl rfl
  | parsed line =>
    rw [next_parsed]
    exact h.congr rfl rfl rfl
  | withdrew | left | halted | spoiled => exact h.congr rfl rfl rfl

theorem Shown.after {h : List Happening} (hp : p.Shown) (hh : p.Undergoes h) :
    (p.after h).Shown := by
  induction h generalizing p with
  | nil => exact hp
  | cons e h ih =>
    obtain ⟨hfits, hrest⟩ := undergoes_cons.1 hh
    exact ih (hp.next hfits) hrest

end Play

/-! ## Deeds -/

namespace Deed

/-- The world that has come of a deed. -/
def outcome (d : Deed) : World := (Edit.apply d.action.effect d.world).2

/-- An enabled action of the world, not made up of others, has taken effect. -/
structure Lawful (d : Deed) : Prop where
  found : ∃ id : EntityId .action, d.world.get? id = some d.action
  single : d.action.parts? = none
  enabled : d.action.enabled = true
  done : (Edit.apply d.action.effect d.world).1 = .ok ()

/-- The action ends the game. -/
def Ends (d : Deed) : Prop := ∃ text, d.action.effect = .endGame text

end Deed

/-- The calls to flush in a log with the newest event first: how many events came before each of
them, and the world that the store was told of. -/
def flushCalls : List Event → List (Nat × World)
  | [] => []
  | .store .flush w _ :: log => (log.length, w) :: flushCalls log
  | _ :: log => flushCalls log

/-- A call to flush, accepted or refused. -/
def Event.isFlush : Event → Bool
  | store .flush _ _ => true
  | _ => false

theorem Event.isFlush_of_isLine {e : Event} (h : e.isLine = true) : e.isFlush = false := by
  cases e with
  | line => rfl
  | read | store => cases h

theorem flushCalls_append {events log : List Event} (h : ∀ e ∈ events, e.isFlush = false) :
    flushCalls (events ++ log) = flushCalls log := by
  induction events with
  | nil => rfl
  | cons e events ih =>
    rw [← ih fun e' he' => h e' (List.mem_cons_of_mem _ he')]
    have hfirst := h e List.mem_cons_self
    cases e with
    | read | line => rfl
    | store call => cases call with
      | commit => rfl
      | flush => cases hfirst

/-! ## Answers -/

/-- In the log, with the newest event first, stands what the store says to each call. -/
def Store.Answers (store : Store) : List Event → Prop
  | [] => True
  | .store call _ refusal :: log =>
    refusal = store.refusal? (log.filterMap Event.call?) call ∧ store.Answers log
  | _ :: log => store.Answers log

theorem Store.answers_append {store : Store} {events log : List Event}
    (h : ∀ e ∈ events, e.call? = none) : store.Answers (events ++ log) ↔ store.Answers log := by
  induction events with
  | nil => rfl
  | cons e events ih =>
    rw [← ih fun e' he' => h e' (List.mem_cons_of_mem _ he')]
    have hfirst := h e List.mem_cons_self
    cases e with
    | read | line => rfl
    | store => cases hfirst

theorem Event.call?_of_isLine {e : Event} (h : e.isLine = true) : e.call? = none := by
  cases e with
  | line => rfl
  | read | store => cases h

namespace Play

/-- What happens next is answered by the store of the play. -/
theorem answers_next {p : Play} {e : Happening} (h : p.store.Answers p.log) (hfits : e.Fits p) :
    (p.next e).store.Answers (p.next e).log := by
  obtain ⟨hlog, hstore⟩ := log_next hfits
  rw [hlog, hstore]
  cases e with
  | told call w refusal => exact ⟨hfits.2, h⟩
  | shown items =>
    refine (Store.answers_append fun event hevent => ?_).2 h
    exact Event.call?_of_isLine (Act.isLine_of_mem_printed (List.mem_reverse.1 hevent))
  | _ => exact h

/-- The deeds and the calls to flush belong together one by one. -/
structure Settled (p : Play) : Prop where
  flushed : p.deeds.map (fun d => (d.place, d.outcome)) = flushCalls p.log
  lawful : ∀ d ∈ p.deeds, d.Lawful

variable {p q : Play}

theorem Settled.log (h : p.Settled) {events : List Event} (hlog : q.log = events ++ p.log)
    (hevents : ∀ e ∈ events, e.isFlush = false) (deeds : q.deeds = p.deeds) : q.Settled := by
  refine ⟨?_, deeds ▸ h.lawful⟩
  rw [deeds, hlog, flushCalls_append hevents]
  exact h.flushed

/-- Between an action that takes effect and the call to flush nothing else happens. -/
theorem Settled.deed (hp : p.Settled) {id : EntityId .action} {action : World.Action} {w : World}
    {refusal : Option String} (h : p.Undergoes [.did id action, .told .flush w refusal]) :
    (p.after [.did id action, .told .flush w refusal]).Settled := by
  obtain ⟨hdid, -, -⟩ := h
  simp only [after_cons, after_nil, next_told, next_did hdid]
  obtain ⟨found, single, enabled, done⟩ := hdid
  constructor
  · rw [List.map_cons, flushCalls]
    exact congrArg _ hp.flushed
  · rintro d (_ | ⟨_, hd⟩)
    · exact ⟨⟨id, found⟩, single, enabled, done⟩
    · exact hp.lawful d hd

/-- Whatever happens but that an action takes effect or the store is told of it, deeds and calls
stay as they are. -/
theorem Settled.next (hp : p.Settled) {e : Happening} (hfits : e.Fits p)
    (hflush : ∀ event ∈ e.events, event.isFlush = false) (hdid : ∀ id action, e ≠ .did id action) :
    (p.next e).Settled := by
  have hdeeds : (p.next e).deeds = p.deeds := by
    cases e with
    | did id action => exact absurd rfl (hdid id action)
    | told call w refusal => rw [next_told]
    | parsed line => rw [next_parsed]
    | _ => rfl
  refine hp.log (log_next hfits).1 (fun event hevent => ?_) hdeeds
  exact hflush event (List.mem_reverse.1 hevent)

/-- While the game goes on no action has ended it. -/
def Going (p : Play) : Prop := p.status = .running → ∀ d ∈ p.deeds, ¬d.Ends

theorem Going.next (hp : p.Going) {e : Happening} (hfits : e.Fits p) : (p.next e).Going := by
  intro hrunning
  cases e with
  | did id action =>
    rw [next_did hfits] at hrunning ⊢
    cases heffect : action.effect with
    | endGame text => simp [heffect, Status.after] at hrunning
    | _ =>
      have hbefore : p.status = .running := by simpa [heffect, Status.after] using hrunning
      refine List.forall_mem_cons.2 ⟨?_, hp hbefore⟩
      rintro ⟨text, hends⟩
      rw [heffect] at hends
      cases hends
  | told call w refusal =>
    rw [next_told] at hrunning ⊢
    exact hp hrunning
  | parsed line =>
    rw [next_parsed] at hrunning ⊢
    exact hp hrunning
  | left => cases hrunning
  | _ => exact hp hrunning

/-- All records of the play are in order. -/
structure Recorded (p : Play) : Prop where
  shown : p.Shown
  settled : p.Settled
  answered : p.store.Answers p.log
  going : p.Going

theorem Recorded.next (hp : p.Recorded) {e : Happening} (hfits : e.Fits p)
    (hflush : ∀ event ∈ e.events, event.isFlush = false) (hdid : ∀ id action, e ≠ .did id action) :
    (p.next e).Recorded :=
  ⟨hp.shown.next hfits, hp.settled.next hfits hflush hdid, answers_next hp.answered hfits,
    hp.going.next hfits⟩

theorem Recorded.deed (hp : p.Recorded) {id : EntityId .action} {action : World.Action} {w : World}
    {refusal : Option String} (h : p.Undergoes [.did id action, .told .flush w refusal]) :
    (p.after [.did id action, .told .flush w refusal]).Recorded :=
  ⟨hp.shown.after h, hp.settled.deed h, answers_next (answers_next hp.answered h.1) h.2.1,
    (hp.going.next h.1).next h.2.1⟩

/-- A play that has just begun has nothing on record. -/
theorem recorded_new (world : World) (cache : PatternCache) (status : Status) (store : Store) :
    ({ world, cache, status, store } : Play).Recorded :=
  ⟨rfl, ⟨rfl, by simp⟩, trivial, by simp [Going]⟩

end Play

/-! ## Work -/

variable {acts withdraws answers : Prop} {p : Play} {h : List Happening}

theorem Happening.Quiet.isFlush {e : Happening} (hquiet : e.Quiet) :
    ∀ event ∈ e.events, event.isFlush = false := by
  intro event hevent
  cases e with
  | shown items => exact Event.isFlush_of_isLine (Act.isLine_of_mem_printed hevent)
  | parsed | said | left => cases hevent
  | read | did | withdrew | told | halted | spoiled => cases hquiet

theorem Happening.Quiet.ne_did {e : Happening} (hquiet : e.Quiet) (id : EntityId .action)
    (action : World.Action) : e ≠ .did id action := by
  intro h
  rw [h] at hquiet
  exact hquiet

theorem Work.recorded (hw : Work acts withdraws answers h) (hp : p.Recorded)
    (hh : p.Undergoes h) : (p.after h).Recorded := by
  induction hw generalizing p with
  | nil => exact hp
  | quiet quiet _ ih =>
    obtain ⟨hfits, hrest⟩ := Play.undergoes_cons.1 hh
    exact ih (hp.next hfits quiet.isFlush quiet.ne_did) hrest
  | @deed id action w h _ _ ih =>
    have happend : .did id action :: .told .flush w none :: h
        = [.did id action, .told .flush w none] ++ h := rfl
    rw [happend] at hh ⊢
    obtain ⟨hdeed, hrest⟩ := Play.undergoes_append.1 hh
    rw [Play.after_append]
    exact ih (hp.deed hdeed) hrest
  | withdrawal _ _ ih | answer _ _ ih =>
    obtain ⟨hfits, hrest⟩ := Play.undergoes_cons.1 hh
    exact ih (hp.next hfits (by simp [Happening.events, Event.isFlush]) (by simp)) hrest

theorem Unflushed.recorded {reason : String} (hu : Unflushed acts withdraws answers reason h)
    (hp : p.Recorded) (hh : p.Undergoes h) : (p.after h).Recorded := by
  obtain ⟨-, work⟩ := hu
  obtain ⟨hwork, hdeed⟩ := Play.undergoes_append.1 hh
  rw [Play.after_append]
  exact (work.recorded hp hwork).deed hdeed

theorem Broken.recorded {failure : Failure} (hb : Broken acts withdraws answers failure h)
    (hp : p.Recorded) (hh : p.Undergoes h) : (p.after h).Recorded := by
  rcases hb with work | ⟨-, work⟩
  all_goals
    obtain ⟨hwork, hlast⟩ := Play.undergoes_append.1 hh
    rw [Play.after_append]
    exact (work.recorded hp hwork).next hlast.1 (by simp [Happening.events]) (by simp)

end Adventure
