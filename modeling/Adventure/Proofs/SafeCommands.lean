import Adventure.Proofs.Offers
import Adventure.Proofs.SafeActs

/-!
# Commands and conversations that do not fail

Every handler leaves an orderly play orderly (`Act.leads_execute`). A command may begin a
conversation, which then waits for the player. The choices that it offers are open
(`Dialogue.Waits`); nothing happens until the player answers, so they are still open when one of
them is chosen, and going on with the conversation does not fail either (`Act.leads_hear`).
-/

namespace Adventure

open World

/-- A number that the player types stands for one of the choices on offer. -/
theorem mem_of_chosen? {offered : List (EntityId .choice)} {line : String} {id : EntityId .choice}
    (h : chosen? offered line = some id) : id ∈ offered := by
  unfold chosen? at h
  split at h
  · exact List.mem_of_getElem? h
  · cases h

/-! ## Conversations that wait -/

/-- A choice that is offered in a layer at present. -/
def Thread.Open (w : World) (layer : EntityId .layer) (id : EntityId .choice) : Prop :=
  ∃ c, w.get? id = some c ∧ Choice.layer c = layer ∧ Choice.enabled c = true

namespace Dialogue

/-- The choices that a conversation offers are open at present. -/
structure Waits (base w : World) (d : Dialogue) : Prop where
  fits : d.Fits base
  offered : ∀ id ∈ d.offered, ∃ layer, d.thread.layer = some layer ∧ Thread.Open w layer id

end Dialogue

namespace Act

open Steps

variable {α : Type} {base : World}

/-- In an orderly play the act does not fail and the play stays orderly; if there is a conversation
afterwards, it waits for the player. -/
def Leads (base : World) (m : Act (Option Dialogue)) : Prop :=
  Succeeds (Orderly base) m fun r p =>
    Orderly base p ∧ ∀ d, r = some d → d.Waits base p.world

theorem Safe.leads_none {m : Act Unit} (hm : Safe base m) :
    Leads base (m >>= fun _ => pure none) :=
  hm.succeeds_bind fun _ _ => Succeeds.pure fun _ hp => ⟨hp, nofun⟩

theorem Leads.ite {c : Prop} [Decidable c] {m m' : Act (Option Dialogue)} (hm : Leads base m)
    (hm' : Leads base m') : Leads base (if c then m else m') :=
  Succeeds.ite (fun _ => hm) fun _ => hm'

variable (hs : base.Sound)
include hs

/-- A conversation that ends leaves nothing to wait for. -/
theorem yields_close {d : Dialogue} (hd : d.Fits base) : Yields base d.close (· = none) := by
  have hafter : Yields base (do triggerAll d.after; return none : Act (Option Dialogue))
      (· = none) :=
    (safe_triggerAll hs hd.after).bind fun _ _ => .pure rfl
  unfold Dialogue.close
  cases d.farewell with
  | none => exact hafter
  | some farewell => exact (safe_push _).bind fun _ _ => hafter

theorem leads_close {d : Dialogue} (hd : d.Fits base) : Leads base d.close :=
  (yields_close hs hd).weaken (fun _ => id) fun _ _ h => ⟨h.2, by rw [h.1]; exact nofun⟩

theorem leads_proceed {d : Dialogue} (hd : d.Fits base) : Leads base d.proceed := by
  intro p hp
  by_cases hgoes : p.GoesOn d.thread.layer
  · refine ⟨_, _, Dialogue.proceed_of_goesOn hp.intact hs hd hgoes, hp.congr rfl rfl rfl, ?_⟩
    intro d' hd'
    obtain rfl := Option.some.inj hd'
    refine ⟨⟨hd.thread, hd.after⟩, fun id hid => ?_⟩
    obtain ⟨x, hx, rfl⟩ := List.mem_map.1 hid
    obtain ⟨hc, hlayer, henabled⟩ := of_mem_openChoices hp.intact hs hx
    exact ⟨x.2.layer, hlayer, x.2, hc, rfl, henabled⟩
  · rw [Dialogue.proceed_of_not_goesOn hp.intact hs hd hgoes]
    exact leads_close hs hd p hp

theorem leads_begin {conversation : EntityId .conversation} {after : List (EntityId .action)}
    (hconversation : base.Has conversation) (hafter : base.HasAll after) (speaker : String) :
    Leads base (Dialogue.begin conversation speaker after) := by
  intro p hp
  obtain ⟨c, hc⟩ := hp.intact.has hconversation
  rw [Dialogue.begin_eq hc]
  exact leads_proceed hs ⟨Thread.fits_start hp.intact hs hc, hafter⟩ _ (hp.congr rfl rfl rfl)

/-- An open choice can be chosen, and the conversation goes on in an existing layer. -/
theorem choose_ok {t : Thread} {layer : EntityId .layer} {id : EntityId .choice} {p : Play}
    (hp : Orderly base p) (hlayer : t.layer = some layer) (hopen : Thread.Open p.world layer id)
    (speaker : String) :
    ∃ t' p', t.choose speaker id p = (.ok t', p') ∧ t'.Fits base ∧ Orderly base p' := by
  obtain ⟨c, hc, hown, henabled⟩ := hopen
  have hseen : Seen base id c := ⟨p.world, hp.intact, hc⟩
  have hactions : base.HasAll (Choice.actions c) := hseen.fits hs
  have htarget : ∀ target, Choice.target c = some target → base.Has target := by
    intro target htarget
    obtain ⟨l, hl, -⟩ := hseen.linkFits target htarget
    exact ⟨l, hl⟩
  have hoffered : ¬(some c.layer ≠ t.layer ∨ c.enabled = false) := by
    simp [hlayer, hown, henabled]
  rw [Thread.choose, bind_of_ok (find_present hc)]
  simp only [if_neg hoffered]
  have hwithdraw : Safe base (edit (Edit.change id fun c => { c with enabled := false })) :=
    safe_edit (Edit.safe_change hseen.has (fun _ => by rfl) fun _ => by rfl)
  refine (yields_world.bind fun w _ => (safe_push _).bind fun _ _ => ?_ : Yields base _ _) p hp
  refine (safe_push _).whenNot ((safe_triggerAll hs hactions).bind fun _ _ => ?_)
  exact hwithdraw.when (.pure htarget)

theorem leads_answer {d : Dialogue} {input : Input} {p : Play} (hp : Orderly base p)
    (hd : d.Waits base p.world) (hinput : ∀ text, input ≠ .broken text) :
    ∃ r p', d.answer input p = (.ok r, p') ∧ Orderly base p' ∧
      ∀ d', r = some d' → d'.Waits base p'.world := by
  cases input with
  | broken text => exact absurd rfl (hinput text)
  | ended | interrupt => exact leads_close hs hd.fits p hp
  | line line =>
    rw [Dialogue.answer]
    cases hchosen : chosen? d.offered line with
    | none =>
      have hproceed := leads_proceed hs hd.fits
      exact (safe_texts.succeeds_bind fun _ _ =>
        (safe_push _).succeeds_bind fun _ _ => hproceed) p hp
    | some id =>
      obtain ⟨layer, hlayer, hopen⟩ := hd.offered id (mem_of_chosen? hchosen)
      refine Succeeds.bind_at (choose_ok hs hp hlayer hopen d.speaker) fun t p' hp' => ?_
      have hfits : Dialogue.Fits base { d with thread := t } := ⟨hp'.1, hd.fits.after⟩
      exact leads_proceed hs hfits p' hp'.2

/-- Going on with a conversation that waits does not fail, unless the input breaks. -/
theorem leads_hear {d : Dialogue} {input : Input} {p : Play} (hp : Orderly base p)
    (hd : d.Waits base p.world) (hinput : ∀ text, input ≠ .broken text) :
    ∃ r p', d.hear input p = (.ok r, p') ∧ Orderly base p' ∧
      ∀ d', r = some d' → d'.Waits base p'.world := by
  have hlogged : Orderly base { p with log := .read .choice input :: p.log } := hp.congr rfl rfl rfl
  exact leads_answer hs hlogged hd hinput

/-! ## Looking -/

omit hs in
theorem safe_notFound (text : Texts → String) (word : String) : Safe base (notFound text word) :=
  safe_texts.bind fun _ _ => safe_push _

omit hs in
theorem safe_refuse (subject : Text.Subject) : Safe base (refuse subject) :=
  safe_texts.bind fun _ _ => safe_push _

omit hs in
theorem safe_report (allowed : Bool) (text : String) (first : Text.Subject)
    (second : Option Text.Subject) : Safe base (report allowed text first second) := safe_push _

omit hs in
theorem safe_accepts {command : Command} {phrasings : List String} {verb : Verb}
    (hverb : command.verb = verb) (h : Phrased verb phrasings) :
    Safe base (accepts command phrasings) :=
  yields_look fun _ _ => by
    obtain ⟨accepted, haccepted⟩ := Command.acceptedBy_ok (hverb ▸ h)
    exact ⟨accepted, haccepted, trivial⟩

omit hs in
theorem safe_list (header : String) (names : List String) : Safe base (list header names) :=
  .ite (.pure trivial) (safe_push _)

omit hs in
theorem safe_namesOf {kind : EntityKind} (name : Entity kind → String)
    {ids : List (EntityId kind)} (hids : base.HasAll ids) :
    Safe base (look fun w => namesOf name w ids) :=
  yields_look fun w hw => by
    obtain ⟨names, hnames⟩ := namesOf_ok name fun id hid => hw.has (hids id hid)
    exact ⟨names, hnames, trivial⟩

omit hs in
theorem yields_playerLocation :
    Yields base (look World.playerLocation) fun l =>
      ∃ (id : EntityId .location) (w : World), Intact base w ∧ w.get? id = some l :=
  yields_look fun w hw => by
    obtain ⟨l, hl⟩ := hw.placed.here
    exact ⟨l, playerLocation_eq hl, _, w, hw, hl⟩

theorem safe_describe : Safe base describe := by
  refine yields_playerLocation.bind fun l hl => (safe_push _).bind fun _ _ => ?_
  obtain ⟨id, w, hw, hl⟩ := hl
  have hitems : base.HasAll (Location.items l) := fun i hi =>
    hw.has_base (hw.placed.items.has hl i hi)
  have hpersons : base.HasAll (Location.persons l) := fun p hp =>
    hw.has_base (hw.placed.persons.has hl p hp)
  refine (safe_namesOf _ hitems).bind fun _ _ => (safe_namesOf _ hpersons).bind fun _ _ => ?_
  refine (safe_namesOf _ (hw.waysOut hs hl)).bind fun _ _ => safe_texts.bind fun _ _ => ?_
  exact (safe_list _ _).bind fun _ _ => (safe_list _ _).bind fun _ _ => safe_list _ _

omit hs in
theorem safe_inventory : Safe base inventory := by
  refine yields_world.bind fun w hw => ?_
  have hcarried : base.HasAll w.player.inventory := fun id hid =>
    hw.has_base (hw.placed.carried id hid)
  refine .ite (safe_texts.bind fun _ _ => safe_push _) ?_
  exact (safe_namesOf _ hcarried).bind fun _ _ => safe_texts.bind fun _ _ => safe_push _

omit hs in
theorem safe_help : Safe base help := yields_world.bind fun _ _ => safe_push _

omit hs in
theorem safe_exit : Safe base exit :=
  safe_texts.bind fun _ _ => (safe_push _).bind fun _ _ => safe_finish _

/-- A search finds nothing or an object that exists. -/
theorem yields_search (scopes : List Scope) (word : String) :
    Yields base (look (·.search scopes word)) fun found =>
      ∀ ref, found = some ref → base.Nameable ref :=
  yields_look fun _ hw => search_ok hw hs scopes word

theorem safe_inspect {command : Command} (hverb : command.verb = .inspect) :
    Safe base (inspect command) := by
  refine (yields_search hs _ _).bind fun found hfound => ?_
  cases found with
  | none => exact safe_notFound _ _
  | some ref =>
    have href := hfound ref rfl
    have hobject : Safe base (look (·.object ref)) := yields_look fun w hw => by
      obtain ⟨o, ho, -⟩ := object_ok hw hs href
      exact ⟨o, ho, trivial⟩
    refine hobject.bind fun object _ => ?_
    refine (yields_look fun w hw => ?_ : Yields base _ fun i => ∃ j, i = some j ∧
      Phrased .inspect j.phrasings ∧ base.HasAll j.actions).bind fun inspection hinspection => ?_
    · obtain ⟨i, hi, hfits⟩ := inspection_ok hw hs href
      exact ⟨_, hi, i, rfl, hfits⟩
    · obtain ⟨i, rfl, hphrased, hactions⟩ := hinspection
      refine (safe_accepts hverb hphrased).bind fun accepted _ => .ite ?_ (safe_refuse _)
      refine (safe_push _).whenNot (safe_texts.bind fun _ _ => (safe_push _).bind fun _ _ => ?_)
      exact safe_triggerAll hs hactions

/-! ## Doing -/

theorem safe_takeItem {command : Command} {id : EntityId .item} (hverb : command.verb = .take)
    (hid : base.Has id) : Safe base (takeItem command id) := by
  refine (yields_find hid).bind fun item hitem => ?_
  have hfits : ItemFits base _ := hitem.fits hs
  refine (safe_accepts hverb hfits.takePhrasings).bind fun accepted _ => .ite ?_ (safe_refuse _)
  refine (yields_find hfits.takeAction).bind fun action _ => safe_texts.bind fun texts _ => ?_
  refine (safe_report _ _ _ _).bind fun _ _ => (safe_trigger hs hfits.takeAction).bind fun _ _ => ?_
  exact safe_triggerAll hs hfits.takeActions

theorem safe_take {command : Command} (hverb : command.verb = .take) :
    Safe base (take command) := by
  refine (yields_search hs _ _).bind fun found hfound => ?_
  split
  · exact safe_takeItem hs hverb (hfound _ rfl)
  · exact safe_notFound _ _

theorem safe_moveThrough {command : Command} {id : EntityId .way} (hverb : command.verb = .move)
    (hid : base.Has id) : Safe base (moveThrough command id) := by
  refine (yields_find hid).bind fun way hway => ?_
  have hfits : WayFits base _ := hway.fits hs
  refine (safe_accepts hverb hfits.movePhrasings).bind fun accepted _ => .ite ?_ (safe_refuse _)
  refine (yields_find hfits.moveAction).bind fun action _ => safe_texts.bind fun texts _ => ?_
  refine (safe_report _ _ _ _).bind fun _ _ => yields_world.bind fun w _ => ?_
  refine (safe_trigger hs hfits.moveAction).bind fun _ _ => yields_world.bind fun w' _ => ?_
  exact (safe_describe hs).when (safe_triggerAll hs hfits.moveActions)

theorem safe_move {command : Command} (hverb : command.verb = .move) :
    Safe base (move command) := by
  refine (yields_search hs _ _).bind fun found hfound => ?_
  split
  · exact safe_moveThrough hs hverb (hfound _ rfl)
  · exact safe_notFound _ _

theorem safe_useObject {command : Command} {usage : Usage EntityId} (hverb : command.verb = .use)
    (hphrased : Phrased .use usage.phrasings) (hactions : base.HasAll usage.actions)
    (name : String) : Safe base (useObject command name usage) := by
  refine (safe_accepts hverb hphrased).bind fun accepted _ => .ite ?_ (safe_refuse _)
  refine safe_texts.bind fun texts _ => (safe_report _ _ _ _).bind fun _ _ => ?_
  exact safe_triggerAll hs hactions

theorem safe_use {command : Command} (hverb : command.verb = .use) : Safe base (use command) := by
  refine (yields_search hs _ _).bind fun found hfound => ?_
  split
  · rename_i id
    have hid : base.Has id := hfound _ rfl
    refine (yields_find hid).bind fun item hitem => ?_
    have hfits : ItemFits base _ := hitem.fits hs
    have hphrased : Phrased .use item.usage.phrasings := hfits.usePhrasings
    exact safe_useObject hs hverb hphrased hfits.useActions _
  · rename_i id
    have hid : base.Has id := hfound _ rfl
    refine (yields_find hid).bind fun item hitem => ?_
    have hfits : InventoryItemFits base _ := hitem.fits hs
    have hphrased : Phrased .use item.usage.phrasings := hfits.usePhrasings
    exact safe_useObject hs hverb hphrased hfits.useActions _
  · exact safe_notFound _ _

theorem safe_usePair {command : Command} {first : EntityId .inventoryItem} {second : ObjectRef}
    (hverb : command.verb = .useWith) (hfirst : base.Has first) (hsecond : base.Nameable second) :
    Safe base (usePair command first second) := by
  refine yields_world.bind fun w _ => ?_
  refine (yields_look fun w hw => ?_ : Yields base _ fun found =>
    ∀ i, found = some i → InteractionFits base i).bind fun interaction hfits => ?_
  · obtain ⟨is, his, hfits⟩ := interactionsBetween_ok hw hs hfirst hsecond
    rw [his]
    exact firstAccepting_ok hverb hfits
  · refine safe_texts.bind fun texts _ => ?_
    cases interaction with
    | none => exact safe_report _ _ _ _
    | some i =>
      exact (safe_report _ _ _ _).bind fun _ _ => safe_triggerAll hs (hfits i rfl).2

theorem safe_useWith {command : Command} (hverb : command.verb = .useWith) :
    Safe base (useWith command) := by
  refine (yields_search hs _ _).bind fun found hfound => ?_
  split
  · rename_i first
    have hpartners : Yields base (look (partners · first)) fun refs =>
        ∀ ref ∈ refs, base.Nameable ref :=
      yields_look fun w hw => partners_ok hw hs first
    refine hpartners.bind fun candidates hcandidates => ?_
    refine (yields_look fun w hw => findNamed_ok hw hs _ hcandidates).bind fun found hnamed => ?_
    cases found with
    | none => exact safe_texts.bind fun _ _ => safe_push _
    | some second => exact safe_usePair hs hverb (hfound _ rfl) (hnamed second rfl)
  · exact safe_notFound _ _

/-! ## Talking -/

theorem leads_talkWith {command : Command} {id : EntityId .person} (hverb : command.verb = .talkTo)
    (hid : base.Has id) : Leads base (talkWith command id) := by
  refine (yields_find hid).succeeds_bind fun person hperson => ?_
  have hfits : PersonFits base _ := hperson.fits hs
  refine (safe_accepts hverb hfits.talkPhrasings).succeeds_bind fun accepted _ => ?_
  refine Leads.ite ?_ (safe_refuse _).leads_none
  have hafter : Leads base (do triggerAll person.talk.actions; return none) :=
    (safe_triggerAll hs hfits.talkActions).leads_none
  refine safe_texts.succeeds_bind fun texts _ => Leads.ite ?_ ?_
  · cases hconversation : person.talk.conversation with
    | none => exact (safe_push _).succeeds_bind fun _ _ => hafter
    | some conversation =>
      exact leads_begin hs (hperson.linkFits conversation hconversation) hfits.talkActions _
  · exact (safe_report _ _ _ _).succeeds_bind fun _ _ => hafter

theorem leads_talkTo {command : Command} (hverb : command.verb = .talkTo) :
    Leads base (talkTo command) := by
  refine (yields_search hs _ _).succeeds_bind fun found hfound => ?_
  split
  · exact leads_talkWith hs hverb (hfound _ rfl)
  · exact (safe_notFound _ _).leads_none

/-! ## Lines -/

theorem safe_parse (line : String) : Safe base (parse line) := by
  intro p hp
  have hphrasings : ∀ verb, ∀ t ∈ p.world.game.phrasings.of verb, ValidPhrasing verb t := by
    rw [show p.world.game = base.game from congrArg Skeleton.game hp.intact.skeleton]
    exact hs.phrasings
  obtain ⟨command, cache, heq, hformed⟩ :=
    Command.parse_ok hphrasings (customPhrasings_valid hp.intact hs) line hp.formed
  exact ⟨command, { p with cache }, by rw [parse, heq], trivial, hp.intact, hp.accepted, hformed⟩

theorem leads_carryOut (command : Command) : Leads base (carryOut command) := by
  unfold carryOut
  cases hverb : command.verb with
  | exit => exact safe_exit.leads_none
  | help => exact safe_help.leads_none
  | lookAround => exact (safe_describe hs).leads_none
  | inventory => exact safe_inventory.leads_none
  | inspect => exact (safe_inspect hs hverb).leads_none
  | take => exact (safe_take hs hverb).leads_none
  | talkTo => exact leads_talkTo hs hverb
  | move => exact (safe_move hs hverb).leads_none
  | useWith => exact (safe_useWith hs hverb).leads_none
  | use => exact (safe_use hs hverb).leads_none

/-- Whatever line the player sends, carrying it out does not fail. -/
theorem leads_execute (line : String) : Leads base (execute line) := by
  refine (safe_parse hs line).succeeds_bind fun command _ => ?_
  cases command with
  | none => exact safe_texts.succeeds_bind fun _ _ => (safe_push _).leads_none
  | some command => exact leads_carryOut hs command

end Act

end Adventure
