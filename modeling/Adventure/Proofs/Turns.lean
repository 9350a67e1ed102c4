import Adventure.Proofs.Histories
import Adventure.Proofs.Views

/-!
# What commands and conversations do to a play

All that carrying out a command does to the world of a play, it does in turns (`Turn`): an enabled
action takes effect and the store is told. An act that fails stops after some turns, perhaps in the
middle of one more (`Stop`). This can be read off the history that the act leaves behind
(`Act.Made.runs`); what holds of all turns can be carried over to every command from there.
-/

namespace Adventure

open World

/-- What neither the world nor the store has to do with. -/
structure Aside (p p' : Play) : Prop where
  world : p'.world = p.world
  store : p'.store = p.store
  log : ∃ events, p'.log = events ++ p.log ∧ ∀ e ∈ events, e.call? = none

instance : Std.Refl Aside := ⟨fun _ => ⟨rfl, rfl, [], rfl, by simp⟩⟩

instance : IsTrans Play Aside := by
  refine ⟨fun p₁ p₂ p₃ h h' => ⟨h'.world.trans h.world, h'.store.trans h.store, ?_⟩⟩
  obtain ⟨older, heq, hcalls⟩ := h.log
  obtain ⟨newer, heq', hcalls'⟩ := h'.log
  refine ⟨newer ++ older, by rw [heq', heq, List.append_assoc], fun e he => ?_⟩
  rcases List.mem_append.1 he with he | he
  · exact hcalls' e he
  · exact hcalls e he

/-- What happens to a play in one go. -/
inductive Turn : Play → Play → Prop
  | aside {p p' : Play} (aside : Aside p p') : Turn p p'
  /-- An enabled action takes effect and the store accepts the world. -/
  | deed {p p' : Play} {id : EntityId .action} {action : World.Action}
      (found : p.world.get? id = some action) (single : action.parts? = none)
      (enabled : action.enabled = true)
      (done : Edit.apply action.effect p.world = (.ok (), p'.world))
      (accepted : p.store.refusal? p.calls .flush = none) (store : p'.store = p.store)
      (log : p'.log = .store .flush p'.world none :: p.log) : Turn p p'

/-- What happens to a play after some turns. -/
def Turns : Play → Play → Prop := Relation.ReflTransGen Turn

/-- What happens to a play when an act fails after its last turn. -/
inductive Stop : Play → Play → Prop
  /-- Nothing more. -/
  | halt (p : Play) : Stop p p
  /-- An effect fails; what it has changed by then stays changed. -/
  | failed {p : Play} {action : World.Action} {failure : Failure}
      (failed : (Edit.apply action.effect p.world).1 = .error failure) :
      Stop p { p with world := (Edit.apply action.effect p.world).2 }
  /-- An enabled action has taken effect but the store refuses the world. -/
  | refused {p p' : Play} {action : World.Action} {reason : String}
      (done : Edit.apply action.effect p.world = (.ok (), p'.world)) (store : p'.store = p.store)
      (refused : p.store.refusal? p.calls .flush = some reason)
      (log : p'.log = .store .flush p'.world (some reason) :: p.log) : Stop p p'

/-! ## Histories as turns -/

theorem call?_of_mem_printed {items : List ViewItem} {e : Event} (h : e ∈ Act.printed items) :
    e.call? = none := by
  obtain ⟨item, -, hline⟩ := List.mem_flatMap.1 h
  obtain ⟨text, -, rfl⟩ := List.mem_map.1 hline
  rfl

theorem Happening.Quiet.aside {p : Play} {e : Happening} (hquiet : e.Quiet) (hfits : e.Fits p) :
    Aside p (p.next e) := by
  obtain ⟨hlog, hstore⟩ := Play.log_next hfits
  refine ⟨?_, hstore, e.events.reverse, hlog, fun event hevent => ?_⟩
  · cases e with
    | parsed line => rw [Play.next_parsed]
    | said | shown | left => rfl
    | read | did | withdrew | told | halted | spoiled => cases hquiet
  · cases e with
    | shown items => exact call?_of_mem_printed (List.mem_reverse.1 hevent)
    | parsed | said | left => cases hevent
    | read | did | withdrew | told | halted | spoiled => cases hquiet

/-- What is known of an action that takes effect and of which the store is told. -/
theorem deed_facts {p p' : Play} {id : EntityId .action} {action : World.Action} {w : World}
    {refusal : Option String} (hp' : p' = p.after [.did id action, .told .flush w refusal])
    (h : p.Undergoes [.did id action, .told .flush w refusal]) :
    p.world.get? id = some action ∧ action.parts? = none ∧ action.enabled = true ∧
      Edit.apply action.effect p.world = (.ok (), p'.world) ∧
      p.store.refusal? p.calls .flush = refusal ∧ p'.store = p.store ∧
      p'.log = .store .flush p'.world refusal :: p.log := by
  simp only [Play.undergoes_cons, Play.undergoes_nil, and_true] at h
  obtain ⟨hdid, -, hrefusal⟩ := h
  have hnext := Play.next_did hdid
  obtain ⟨found, single, enabled, done⟩ := hdid
  rw [Play.after_cons, Play.after_cons, Play.after_nil, Play.next_told, ← hrefusal] at hp'
  rw [hnext] at hp' hrefusal
  subst hp'
  exact ⟨found, single, enabled, Prod.ext done rfl, hrefusal.symm, rfl, rfl⟩

/-- Work that withdraws nothing comes about in turns. -/
theorem Work.turns {acts : Prop} {h : List Happening} (hw : Work acts False False h) {p : Play}
    (hfits : p.Undergoes h) : Turns p (p.after h) := by
  induction hw generalizing p with
  | nil => exact .refl
  | quiet quiet _ ih =>
    obtain ⟨hfirst, hrest⟩ := Play.undergoes_cons.1 hfits
    exact .head (.aside (quiet.aside hfirst)) (ih hrest)
  | @deed id action w h _ _ ih =>
    have happend : .did id action :: .told .flush w none :: h
        = [.did id action, .told .flush w none] ++ h := rfl
    rw [happend] at hfits ⊢
    obtain ⟨hdeed, hrest⟩ := Play.undergoes_append.1 hfits
    rw [Play.after_append]
    obtain ⟨found, single, enabled, done, accepted, store, log⟩ := deed_facts rfl hdeed
    exact .head (.deed found single enabled done accepted store log) (ih hrest)
  | withdrawal allowed => exact allowed.elim
  | answer allowed => exact allowed.elim

theorem Work.aside {h : List Happening} (hw : Work False False False h) {p : Play}
    (hfits : p.Undergoes h) : Aside p (p.after h) := by
  induction hw generalizing p with
  | nil => exact refl_of Aside p
  | quiet quiet _ ih =>
    obtain ⟨hfirst, hrest⟩ := Play.undergoes_cons.1 hfits
    exact trans_of Aside (quiet.aside hfirst) (ih hrest)
  | deed allowed => exact allowed.elim
  | withdrawal allowed => exact allowed.elim
  | answer allowed => exact allowed.elim

theorem Unflushed.stops {acts : Prop} {reason : String} {h : List Happening} {p : Play}
    (hu : Unflushed acts False False reason h) (hfits : p.Undergoes h) :
    ∃ p₁, Turns p p₁ ∧ Stop p₁ (p.after h) := by
  obtain ⟨-, work⟩ := hu
  obtain ⟨hwork, hdeed⟩ := Play.undergoes_append.1 hfits
  rw [Play.after_append]
  obtain ⟨-, -, -, done, refused, store, log⟩ := deed_facts rfl hdeed
  exact ⟨_, work.turns hwork, .refused done store refused log⟩

theorem Broken.stops {acts : Prop} {failure : Failure} {h : List Happening} {p : Play}
    (hb : Broken acts False False failure h) (hfits : p.Undergoes h) :
    ∃ p₁, Turns p p₁ ∧ Stop p₁ (p.after h) := by
  rcases hb with work | ⟨-, work⟩
  · obtain ⟨hwork, -⟩ := Play.undergoes_append.1 hfits
    rw [Play.after_append]
    exact ⟨_, work.turns hwork, .halt _⟩
  · obtain ⟨hwork, hlast⟩ := Play.undergoes_append.1 hfits
    obtain ⟨⟨action, hfailed⟩, -⟩ := Play.undergoes_cons.1 hlast
    have hstop := @Stop.failed _ action _ (congrArg Prod.fst hfailed)
    rw [hfailed] at hstop
    rw [Play.after_append]
    exact ⟨_, work.turns hwork, hstop⟩

namespace Act

open Steps

variable {α β : Type}

/-- An act leads through turns to where it succeeds or stops. -/
def Runs (m : Act α) : Prop := ∀ p : Play,
  (∀ a p', m p = (.ok a, p') → Turns p p') ∧
  ∀ failure p', m p = (.error failure, p') → ∃ p₁, Turns p p₁ ∧ Stop p₁ p'

/-- Whatever line the player sends, carrying it out does no more than some turns. -/
theorem Made.runs {m : Act α} (h : Made True False True m) : Runs m := by
  intro p
  cases h.course p with
  | ends fits work result =>
    rw [result]
    exact results_ok (work.turns fits)
  | refused fits unflushed result =>
    rw [result]
    exact results_error (unflushed.stops fits)
  | fails fits broken result =>
    rw [result]
    exact results_error (broken.stops fits)

/-- Without actions neither the world nor the store has to do with an act. -/
theorem Made.aside {m : Act α} (h : Made False False True m) : Moves Aside m := by
  intro p
  cases h.course p with
  | ends fits work result =>
    rw [result]
    exact work.aside fits
  | refused _ unflushed =>
    obtain ⟨allowed, -⟩ := unflushed
    exact allowed.elim
  | fails fits broken result =>
    rw [result]
    rcases broken with work | ⟨allowed, -⟩
    · rw [Play.after_append]
      exact work.aside (Play.undergoes_append.1 fits).1
    · exact allowed.elim

theorem aside_log {event : Event} (h : event.call? = none) : Moves Aside (log event) := fun _ =>
  ⟨rfl, rfl, [event], rfl, by simp [h]⟩

end Act

end Adventure
