import Adventure.Proofs.SafeEdits
import Adventure.Proofs.Surroundings
import Adventure.Proofs.Workings

/-!
# Acts that do not fail

A play is orderly (`Orderly`) if its world is intact, its store accepts everything and its patterns
are well-formed. An orderly play never fails: whatever an act looks up exists, whatever cascade it
runs ends (`safe_trigger`), and each handler leaves an orderly play (`leads_execute`). Where a
command begins a conversation the choices on offer are open at that moment (`Dialogue.Waits`), and
since nothing happens until the player answers they still are when one of them is chosen
(`Dialogue.leads_hear`).
-/

namespace Adventure

open World

/-- A play in an intact world that neither the store nor a pattern can bring to a halt. -/
structure Orderly (base : World) (p : Play) : Prop where
  intact : Intact base p.world
  accepted : ∀ calls call, p.store.refusal? calls call = none
  formed : p.cache.Formed

/-- Messages, the log and the status have nothing to do with it. -/
theorem Orderly.congr {base : World} {p p' : Play} (h : Orderly base p)
    (world : p'.world = p.world) (store : p'.store = p.store) (cache : p'.cache = p.cache) :
    Orderly base p' :=
  ⟨world ▸ h.intact, store ▸ h.accepted, cache ▸ h.formed⟩

namespace Act

open Steps Edit

variable {α β : Type} {base : World} {kind : EntityKind}

/-- In an orderly play the act does not fail, `F` holds of its result and the play stays orderly. -/
def Yields (base : World) (m : Act α) (F : α → Prop) : Prop :=
  Succeeds (Orderly base) m fun a p => F a ∧ Orderly base p

/-- In an orderly play the act does not fail, and the play stays orderly. -/
def Safe (base : World) (m : Act α) : Prop := Yields base m fun _ => True

namespace Yields

variable {F : α → Prop} {G : β → Prop} {m : Act α} {f : α → Act β}

theorem pure {a : α} (h : F a) : Yields base (Pure.pure a : Act α) F :=
  Succeeds.pure fun _ hp => ⟨h, hp⟩

/-- What follows an act may rely on what is known of its result. -/
theorem succeeds_bind {Q : β → Play → Prop} (hm : Yields base m F)
    (hf : ∀ a, F a → Succeeds (Orderly base) (f a) Q) : Succeeds (Orderly base) (m >>= f) Q :=
  Succeeds.bind hm fun a p hp => hf a hp.1 p hp.2

theorem bind (hm : Yields base m F) (hf : ∀ a, F a → Yields base (f a) G) :
    Yields base (m >>= f) G := hm.succeeds_bind hf

theorem ite {c : Prop} [Decidable c] {m' : Act α} (hm : Yields base m F) (hm' : Yields base m' F) :
    Yields base (if c then m else m') F :=
  Succeeds.ite (fun _ => hm) fun _ => hm'

end Yields

theorem Safe.when {c : Prop} [Decidable c] {m : Act Unit} {k : Unit → Act β} {G : β → Prop}
    (hm : Safe base m) (hk : Yields base (k ()) G) :
    Yields base (if c then m >>= k else k ()) G :=
  .ite (hm.bind fun _ _ => hk) hk

theorem Safe.whenNot {c : Prop} [Decidable c] {m : Act Unit} {k : Unit → Act β} {G : β → Prop}
    (hm : Safe base m) (hk : Yields base (k ()) G) :
    Yields base (if c then k () else m >>= k) G :=
  .ite hk (hm.bind fun _ _ => hk)

theorem Safe.forM {f : α → Act PUnit} (as : List α) (h : ∀ a ∈ as, Safe base (f a)) :
    Safe base (as.forM f) :=
  fun p hp => by
    obtain ⟨a, p', heq, hp'⟩ := Succeeds.forM as (fun a ha => (h a ha).weaken (fun _ => id)
      fun _ _ hq => hq.2) p hp
    exact ⟨a, p', heq, trivial, hp'⟩

/-! ## Single acts -/

theorem yields_look {f : World → Except Failure α} {F : α → Prop}
    (h : ∀ w, Intact base w → ∃ a, f w = .ok a ∧ F a) : Yields base (look f) F := by
  intro p hp
  obtain ⟨a, ha, hF⟩ := h p.world hp.intact
  exact ⟨a, p, by rw [look, ha], hF, hp⟩

/-- An entity that some intact world has. -/
def Seen (base : World) (id : EntityId kind) (e : Entity kind) : Prop :=
  ∃ w, Intact base w ∧ w.get? id = some e

theorem Seen.fits {id : EntityId kind} {e : Entity kind} (h : Seen base id e) (hs : base.Sound) :
    EntityFits base kind id (frame kind e) := by
  obtain ⟨w, hw, he⟩ := h
  exact hw.fits hs he

theorem Seen.linkFits {id : EntityId kind} {e : Entity kind} (h : Seen base id e) :
    LinkFits base kind e := by
  obtain ⟨w, hw, he⟩ := h
  exact (hw.linked kind id e he).of_sameSkeleton hw.skeleton.symm

theorem Seen.has {id : EntityId kind} {e : Entity kind} (h : Seen base id e) : base.Has id := by
  obtain ⟨w, hw, he⟩ := h
  exact hw.has_base ⟨e, he⟩

theorem yields_find {id : EntityId kind} (hid : base.Has id) :
    Yields base (find id) (Seen base id) :=
  yields_look fun w hw => by
    obtain ⟨e, he⟩ := hw.has hid
    exact ⟨e, find_of_get? he, w, hw, he⟩

theorem yields_world : Yields base world (Intact base) :=
  yields_look fun w hw => ⟨w, rfl, hw⟩

theorem safe_texts : Safe base texts :=
  yields_look fun _ _ => ⟨_, rfl, trivial⟩

theorem safe_edit {e : Edit Unit} (h : Edit.Safe base e) : Safe base (edit e) := by
  intro p hp
  obtain ⟨u, w, heq, hw⟩ := h p.world hp.intact
  exact ⟨u, { p with world := w }, by rw [edit, heq], trivial, hw, hp.accepted, hp.formed⟩

/-- An act that shows in neither the world nor the store nor the patterns. -/
theorem safe_aside {m : Act Unit} (f : Play → Play) (h : ∀ p, m p = (.ok (), f p))
    (world : ∀ p, (f p).world = p.world) (store : ∀ p, (f p).store = p.store)
    (cache : ∀ p, (f p).cache = p.cache) : Safe base m :=
  fun p hp => ⟨(), f p, h p, trivial, hp.congr (world p) (store p) (cache p)⟩

theorem safe_push (item : ViewItem) : Safe base (push item) :=
  safe_aside (·.say [item]) (fun _ => rfl) (fun _ => rfl) (fun _ => rfl) fun _ => rfl

theorem safe_finish (status : Status) : Safe base (finish status) :=
  safe_aside (fun p => { p with status }) (fun _ => rfl) (fun _ => rfl) (fun _ => rfl) fun _ => rfl

theorem safe_display : Safe base display :=
  safe_aside (fun p => { p with view := [], log := (printed p.view).reverse ++ p.log })
    (fun _ => rfl) (fun _ => rfl) (fun _ => rfl) fun _ => rfl

theorem tell_eq {p : Play} (hp : Orderly base p) (call : StoreCall) :
    tell call p = (.ok (), { p with log := .store call p.world none :: p.log }) := by
  simp [tell, hp.accepted]

theorem safe_tell (call : StoreCall) : Safe base (tell call) :=
  fun _ hp => ⟨(), _, tell_eq hp call, trivial, hp.congr rfl rfl rfl⟩

/-! ## Actions -/

theorem safe_perform (hs : base.Sound) {effect : Effect EntityId ObjectRef}
    (hfits : base.EffectFits effect) : Safe base (perform effect) := by
  have hedit := safe_edit (safe_apply hs hfits)
  unfold perform
  cases effect
  case endGame text =>
    exact hedit.bind fun _ _ => yields_world.bind fun _ _ => (safe_push _).bind fun _ _ =>
      safe_finish .gameOver
  all_goals exact hedit.bind fun _ _ => .pure trivial

theorem safe_enact (hs : base.Sound) {action : World.Action}
    (hfits : base.EffectFits action.effect) : Safe base (enact action) :=
  yields_world.bind fun before _ => (safe_perform hs hfits).bind fun _ _ =>
    safe_aside (fun p => { p with deeds := ⟨action, before, p.log.length⟩ :: p.deeds })
      (fun _ => rfl) (fun _ => rfl) (fun _ => rfl) fun _ => rfl

theorem safe_runSingle (hs : base.Sound) {action : World.Action}
    (hfits : base.EffectFits action.effect) : Safe base (runSingle action) :=
  .ite ((safe_enact hs hfits).bind fun _ _ => safe_tell .flush) (.pure trivial)

/-- A cascade ends, since a walk through the actions meets no cycle. -/
theorem safe_triggerFrom (hs : base.Sound) {depth : Nat} {path : List (EntityId .action)}
    {id : EntityId .action} (hpath : base.Path path id) (hc : base.Cascading id)
    (hdepth : base.depth ≤ path.length + depth) : Safe base (triggerFrom depth path id) := by
  induction hpath, hdepth using Path.induction with
  | step depth path id hpath _ ih =>
    rw [triggerFrom, hpath.contains_eq_false hc, if_neg Bool.false_ne_true]
    refine (yields_find hc.get?).bind fun action haction => ?_
    have hfits : base.EffectFits action.effect := haction.fits hs
    obtain ⟨w, hw, hfound⟩ := haction
    have hparts := partsOf_of_get?_of_sameSkeleton hw.skeleton hfound
    cases heq : action.parts? with
    | none => exact safe_runSingle hs hfits
    | some parts =>
      refine Safe.forM parts fun part hpart => ?_
      have hcontains : base.Contains id part := ⟨parts, hparts.trans heq, hpart⟩
      exact ih part (hpath.cons hc hcontains) (hc.of_contains hcontains)

theorem safe_trigger (hs : base.Sound) {id : EntityId .action} (hid : base.Has id) :
    Safe base (trigger id) := by
  refine yields_world.bind fun w hw => ?_
  rw [hw.depth_eq]
  exact safe_triggerFrom hs .nil (hs.finite id hid).cascading (by simp)

theorem safe_triggerAll (hs : base.Sound) {ids : List (EntityId .action)} (hids : base.HasAll ids) :
    Safe base (triggerAll ids) :=
  Safe.forM ids fun id hid => safe_trigger hs (hids id hid)

/-! ## Actions and patterns -/

/-- The act neither looks at the patterns nor changes them. -/
def Uncached (m : Act α) : Prop :=
  ∀ (p : Play) (cache : PatternCache), m { p with cache } = ((m p).1, { (m p).2 with cache })

theorem uncached_look (f : World → Except Failure α) : Uncached (look f) := fun _ _ => rfl

theorem uncached_push (item : ViewItem) : Uncached (push item) := fun _ _ => rfl

theorem uncached_finish (status : Status) : Uncached (finish status) := fun _ _ => rfl

theorem uncached_edit (e : Edit α) : Uncached (edit e) := fun _ _ => rfl

theorem uncached_tell (call : StoreCall) : Uncached (tell call) := by
  intro p cache
  simp only [tell, Play.calls]
  cases p.store.refusal? (p.log.filterMap Event.call?) call <;> rfl

namespace Uncached

theorem pure (a : α) : Uncached (Pure.pure a : Act α) := fun _ _ => rfl

theorem bind {m : Act α} {f : α → Act β} (hm : Uncached m) (hf : ∀ a, Uncached (f a)) :
    Uncached (m >>= f) := by
  intro p cache
  have hcached := hm p cache
  rcases heq : m p with ⟨failure | a, p'⟩ <;> rw [heq] at hcached
  · rw [bind_of_error heq, bind_of_error hcached]
  · rw [bind_of_ok heq, bind_of_ok hcached]
    exact hf a p' cache

theorem ite {c : Prop} [Decidable c] {m m' : Act α} (hm : Uncached m) (hm' : Uncached m') :
    Uncached (if c then m else m') := by
  split
  · exact hm
  · exact hm'

end Uncached

theorem uncached_perform (effect : Effect EntityId ObjectRef) : Uncached (perform effect) := by
  unfold perform
  cases effect
  case endGame text =>
    exact (uncached_edit _).bind fun _ => (uncached_look _).bind fun _ =>
      (uncached_push _).bind fun _ => uncached_finish _
  all_goals exact (uncached_edit _).bind fun _ => .pure _

theorem uncached_enact (action : World.Action) : Uncached (enact action) :=
  (uncached_look _).bind fun _ => (uncached_perform _).bind fun _ _ _ => rfl

theorem uncached_runSingle (action : World.Action) : Uncached (runSingle action) :=
  .ite ((uncached_enact _).bind fun _ => uncached_tell _) (.pure _)

/-- Nothing but reading a line has to do with patterns. -/
theorem Made.uncached {acts withdraws : Prop} {m : Act α} (h : Made acts withdraws False m) :
    Uncached m := by
  induction h with
  | pure a => exact .pure a
  | bind _ _ ihm ihf => exact ihm.bind ihf
  | look f => exact uncached_look f
  | push item => exact uncached_push item
  | display => exact fun _ _ => rfl
  | parse allowed => exact allowed.elim
  | quit => exact uncached_finish _
  | whenOver _ _ ih ih' =>
    intro p cache
    rw [bind_of_ok (get_eq _), bind_of_ok (get_eq p)]
    exact ih.ite ih' p cache
  | run _ _ single ih =>
    refine (uncached_look _).bind fun action => ?_
    cases hparts : action.parts? with
    | some parts => exact ih action (by simp [hparts])
    | none => exact single action hparts ▸ uncached_runSingle action
  | withdraw => exact uncached_edit _

/-- Actions do not fail in an intact world, whatever patterns are in the cache. -/
theorem triggerAll_ok (hs : base.Sound) {ids : List (EntityId .action)} (hids : base.HasAll ids)
    {p : Play} (hw : Intact base p.world)
    (haccepted : ∀ calls call, p.store.refusal? calls call = none) :
    ∃ p', triggerAll ids p = (.ok (), p') ∧ Intact base p'.world ∧
      ∀ calls call, p'.store.refusal? calls call = none := by
  have hp : Orderly base { p with cache := {} } := ⟨hw, haccepted, PatternCache.formed_empty⟩
  obtain ⟨_, p', heq, -, hp'⟩ := safe_triggerAll hs hids _ hp
  have hmade : Made True False False (triggerAll ids) := made_triggerAll trivial ids
  have hback := hmade.uncached { p with cache := {} } p.cache
  rw [heq] at hback
  exact ⟨_, hback, hp'.intact, hp'.accepted⟩

end Act

end Adventure
