import Adventure.Proofs.SafeCommands
import Adventure.Proofs.SoundStories
import Adventure.Proofs.Threads
import Mathlib.Data.Nat.Digits.Defs

/-!
# How conversations go

A conversation goes on as long as it is in a layer, the game is running and the layer has an open
choice (`Play.GoesOn`). Then these choices, and no others, are shown with their numbers, and what
the player sends decides how it goes on: the end of the input or an interruption ends it, the
number of a choice makes that choice, and any other line is answered by a message and changes
nothing (`Follows`). There is never more than one way to go on (`Follows.unique`).

In a world that has come from a story a conversation does not fail. It begins with the greeting,
follows its layers in this way and ends with the farewell, which is the one that it had in the
beginning (`Dialogue.follows_of_load`).
-/

namespace Adventure

open World

/-! ## Numbers -/

/-- The line is a number in decimal digits, perhaps after a plus sign and between blanks. -/
def Numeral (line : String) (n : Nat) : Prop :=
  ∃ digits : List Char, digits ≠ [] ∧ (∀ d ∈ digits, d.isDigit = true) ∧
    (Text.trim line.toList = digits ∨ Text.trim line.toList = '+' :: digits) ∧
    n = Nat.ofDigits 10 (digits.reverse.map fun d => d.toNat - 48)

theorem foldl_eq_ofDigits (digits : List Char) :
    digits.foldl (fun n d => 10 * n + (d.toNat - 48)) 0
      = Nat.ofDigits 10 (digits.reverse.map fun d => d.toNat - 48) := by
  rw [Nat.ofDigits_eq_foldr, List.foldr_map, List.foldr_reverse]
  simp only [Nat.add_comm, Nat.cast_id]

/-- No sign is a digit, so there is only one way to read the digits of a number. -/
theorem numeral_iff {cs digits₀ : List Char} {n : Nat}
    (h : ∀ digits : List Char, (∀ d ∈ digits, d.isDigit = true) →
      (cs = digits ∨ cs = '+' :: digits ↔ digits = digits₀)) :
    (if digits₀ ≠ [] ∧ digits₀.all Char.isDigit = true then
      some (digits₀.foldl (fun n d => 10 * n + (d.toNat - 48)) 0) else none) = some n ↔
    ∃ digits : List Char, digits ≠ [] ∧ (∀ d ∈ digits, d.isDigit = true) ∧
      (cs = digits ∨ cs = '+' :: digits) ∧
      n = Nat.ofDigits 10 (digits.reverse.map fun d => d.toNat - 48) := by
  rw [foldl_eq_ofDigits]
  simp only [List.all_eq_true]
  constructor
  · intro heq
    split at heq
    · rename_i hdigits
      exact ⟨digits₀, hdigits.1, hdigits.2, (h digits₀ hdigits.2).2 rfl, (Option.some.inj heq).symm⟩
    · cases heq
  · rintro ⟨digits, hne, hdigits, hcs, rfl⟩
    obtain rfl := (h digits hdigits).1 hcs
    rw [if_pos ⟨hne, hdigits⟩]

theorem choiceNumber?_eq_some {line : String} {n : Nat} :
    choiceNumber? line = some n ↔ Numeral line n := by
  unfold choiceNumber? Numeral
  generalize Text.trim line.toList = cs
  dsimp only
  split
  · rename_i rest
    refine numeral_iff fun digits hdigits => ?_
    have hsign : '+' :: rest ≠ digits := by
      rintro rfl
      exact absurd (hdigits '+' (by simp)) (by decide)
    simp [hsign, eq_comm]
  · rename_i hunsigned
    refine numeral_iff fun digits _ => ?_
    have hsign : cs ≠ '+' :: digits := fun heq => hunsigned digits heq
    simp [hsign, eq_comm]

/-! ## Plays in a conversation -/

namespace Play

/-- The play after something has been read. -/
def hear (p : Play) (input : Input) : Play := { p with log := .read .choice input :: p.log }

/-- The play after a choice has been withdrawn. -/
def withdraw (p : Play) (id : EntityId .choice) : Play :=
  match p.world.get? id with
  | some c => { p with world := p.world.put id { (c : Choice) with enabled := false } }
  | none => p

end Play

/-- How a conversation goes from a layer with what the player sends, after which the input ends. -/
inductive Follows (speaker : String) :
    Option (EntityId .layer) → Play → List Input → Play → Prop
  /-- The conversation has no layer to go on in, the game is over or nothing can be chosen. -/
  | ends {layer : Option (EntityId .layer)} {p : Play} {inputs : List Input}
      (halts : ¬p.GoesOn layer) : Follows speaker layer p inputs p
  /-- The input ends. -/
  | silent {layer : Option (EntityId .layer)} {p : Play} (goesOn : p.GoesOn layer) :
      Follows speaker layer p [] ((p.offer layer).hear .ended)
  /-- The player breaks the conversation off. -/
  | stopped {layer : Option (EntityId .layer)} {p : Play} {input : Input} {inputs : List Input}
      (goesOn : p.GoesOn layer) (stop : input = .ended ∨ input = .interrupt) :
      Follows speaker layer p (input :: inputs) ((p.offer layer).hear input)
  /-- The line is the number of a choice. The text of the choice and the answer are said, its
  actions run and it is withdrawn if it is to be chosen only once; then the conversation goes on in
  its target, all as the choice was when it was shown. -/
  | chosen {layer : Option (EntityId .layer)} {p q p' : Play} {line : String}
      {inputs : List Input} {k : Nat} {id : EntityId .choice} {c : Choice}
      (goesOn : p.GoesOn layer) (number : Numeral line (k + 1))
      (shown : (p.offers layer)[k]? = some (id, c))
      (acts : Act.triggerAll c.actions (((p.offer layer).hear (.line line)).say
        (c.words p.world.player.name speaker)) = (.ok (), q))
      (rest : Follows speaker c.target
        (if c.disableAfterChosen then q.withdraw id else q) inputs p') :
      Follows speaker layer p (.line line :: inputs) p'
  /-- The line is not the number of a choice that is shown. -/
  | unclear {layer : Option (EntityId .layer)} {p p' : Play} {line : String} {inputs : List Input}
      (goesOn : p.GoesOn layer)
      (other : ∀ k, Numeral line (k + 1) → (p.offers layer).length ≤ k)
      (rest : Follows speaker layer (((p.offer layer).hear (.line line)).say
        [.actionFailure p.world.game.texts.invalidChoice]) inputs p') :
      Follows speaker layer p (.line line :: inputs) p'

theorem Numeral.unique {line : String} {n m : Nat} (h : Numeral line n) (h' : Numeral line m) :
    n = m :=
  Option.some.inj ((choiceNumber?_eq_some.2 h).symm.trans (choiceNumber?_eq_some.2 h'))

/-- A conversation goes one way only. -/
theorem Follows.unique {speaker : String} {layer : Option (EntityId .layer)} {p p₁ p₂ : Play}
    {inputs : List Input} (h : Follows speaker layer p inputs p₁)
    (h' : Follows speaker layer p inputs p₂) : p₂ = p₁ := by
  induction h with
  | ends halts => cases h' with
    | ends => rfl
    | silent goesOn | stopped goesOn | chosen goesOn | unclear goesOn => exact absurd goesOn halts
  | silent goesOn => cases h' with
    | ends halts => exact absurd goesOn halts
    | silent => rfl
  | stopped goesOn stop => cases h' with
    | ends halts => exact absurd goesOn halts
    | stopped => rfl
    | chosen | unclear => simp at stop
  | chosen goesOn number shown acts _ ih => cases h' with
    | ends halts => exact absurd goesOn halts
    | stopped _ stop => simp at stop
    | chosen _ number' shown' acts' rest' =>
      obtain rfl := Nat.succ.inj (number.unique number')
      obtain ⟨rfl, rfl⟩ := Prod.mk.inj (Option.some.inj (shown.symm.trans shown'))
      obtain rfl := (Prod.mk.inj (acts.symm.trans acts')).2
      exact ih rest'
    | unclear _ other =>
      have hlt := (List.getElem?_eq_some_iff.1 shown).1
      exact absurd (other _ number) (by omega)
  | unclear goesOn other _ ih => cases h' with
    | ends halts => exact absurd goesOn halts
    | stopped _ stop => simp at stop
    | chosen _ number shown =>
      have hlt := (List.getElem?_eq_some_iff.1 shown).1
      exact absurd (other _ number) (by omega)
    | unclear _ _ rest => exact ih rest

/-! ## What the player sends -/

/-- A line is the number of one of the choices or of none. -/
theorem chosen?_cases (choices : List (EntityId .choice × Choice)) (line : String) :
    (∃ k x, Numeral line (k + 1) ∧ choices[k]? = some x ∧
      chosen? (choices.map (·.1)) line = some x.1) ∨
    (∀ k, Numeral line (k + 1) → choices.length ≤ k) ∧
      chosen? (choices.map (·.1)) line = none := by
  have hother : ∀ {n : Option Nat}, choiceNumber? line = n → ∀ k, Numeral line (k + 1) →
      n = some (k + 1) := fun hn k hk => hn.symm.trans (choiceNumber?_eq_some.2 hk)
  unfold chosen?
  cases hn : choiceNumber? line with
  | none => exact .inr ⟨fun k hk => absurd (hother hn k hk) (by simp), rfl⟩
  | some n => cases n with
    | zero => exact .inr ⟨fun k hk => absurd (hother hn k hk) (by simp), rfl⟩
    | succ k =>
      cases hget : choices[k]? with
      | none =>
        refine .inr ⟨fun k' hk' => ?_, by simp [hget]⟩
        obtain rfl : k = k' := by simpa using hother hn k' hk'
        exact List.getElem?_eq_none_iff.1 hget
      | some x => exact .inl ⟨k, x, choiceNumber?_eq_some.1 hn, hget, by simp [hget]⟩

/-! ## Conversations that do not fail -/

/-- A play in an intact world with a store that accepts everything. -/
structure Play.Steady (base : World) (p : Play) : Prop where
  intact : Intact base p.world
  accepted : ∀ calls call, p.store.refusal? calls call = none

theorem Play.Steady.say {base : World} {p : Play} (h : p.Steady base) (items : List ViewItem) :
    (p.say items).Steady base := ⟨h.intact, h.accepted⟩

theorem Play.Steady.withdraw {base : World} {p : Play} (h : p.Steady base)
    (id : EntityId .choice) : (p.withdraw id).Steady base := by
  unfold Play.withdraw
  split
  · rename_i c hc
    exact ⟨h.intact.keeps (Advance.withdraw hc).keeps, h.accepted⟩
  · exact h

theorem Act.withdraw_ok {p : Play} {id : EntityId .choice} (h : p.world.Has id) :
    Act.withdraw id p = (.ok (), p.withdraw id) := by
  obtain ⟨c, hc⟩ := h
  rw [Act.withdraw, Act.edit, Edit.change_eq hc, Play.withdraw]
  simp only [hc]

namespace Dialogue

open Steps

/-- What comes after the last choice. -/
def conclude (d : Dialogue) : Act Unit := fun p =>
  Act.triggerAll d.after (p.say (d.farewell.toList.map (.speech d.speaker)))

theorem close_bind {β : Type} (d : Dialogue) (f : Option Dialogue → Act β) (p : Play) :
    (d.close >>= f) p = (d.conclude >>= fun _ => f none) p := by
  have hclose : d.close p = (d.conclude >>= fun _ => pure none) p := by
    unfold close
    cases hfarewell : d.farewell with
    | none =>
      refine bind_congr_at ?_
      simp [conclude, hfarewell, Play.say]
    | some farewell =>
      have hpush : Act.push (.speech d.speaker farewell) p
          = (.ok (), p.say [.speech d.speaker farewell]) := rfl
      refine (bind_of_ok hpush).trans (bind_congr_at ?_)
      simp [conclude, hfarewell]
  rw [bind_congr_at hclose, bind_assoc]
  rfl

variable {base : World} {p : Play}

section
variable (hs : base.Sound) (hp : p.Steady base)
include hs hp

/-- An open choice can be made: its actions do not fail, and its target exists. -/
theorem choose_open {t : Thread} {id : EntityId .choice} {c : Choice}
    (hopen : (id, c) ∈ p.offers t.layer) (speaker : String) :
    ∃ q, Act.triggerAll c.actions (p.say (c.words p.world.player.name speaker)) = (.ok (), q) ∧
      t.choose speaker id p = (.ok { t with layer := c.target },
        if c.disableAfterChosen then q.withdraw id else q) ∧
      (if c.disableAfterChosen then q.withdraw id else q).Steady base ∧
      Thread.Fits base { t with layer := c.target } := by
  obtain ⟨hc, hlayer, henabled⟩ := of_mem_openChoices hp.intact hs hopen
  have hseen : Act.Seen base id c := ⟨p.world, hp.intact, hc⟩
  have hactions : base.HasAll c.actions := hseen.fits hs
  obtain ⟨q, hq, hintact, haccepted⟩ := Act.triggerAll_ok hs hactions
    (p := p.say (c.words p.world.player.name speaker)) hp.intact hp.accepted
  have hsteady : q.Steady base := ⟨hintact, haccepted⟩
  refine ⟨q, hq, ?_, ?_, fun target htarget => ?_⟩
  · rw [Thread.choose_of_offered hc hlayer henabled, Thread.carryOn]
    change (Act.triggerAll c.actions >>= _) (p.say _) = _
    rw [bind_of_ok hq]
    cases c.disableAfterChosen with
    | false => rfl
    | true =>
      simp only [if_true]
      rw [bind_of_ok (Act.withdraw_ok (hintact.has hseen.has))]
      rfl
  · split
    · exact hsteady.withdraw id
    · exact hsteady
  · obtain ⟨l, hl, -⟩ := hseen.linkFits target htarget
    exact ⟨l, hl⟩

end

/-- A line makes the choice whose number it is, or nothing but a message comes of it. -/
theorem answer_line (hs : base.Sound) (hp : p.Steady base) {d : Dialogue} (hd : d.Fits base)
    (hoffered : d.offered = (p.offers d.thread.layer).map (·.1)) (line : String) :
    (∃ k id c q, Numeral line (k + 1) ∧ (p.offers d.thread.layer)[k]? = some (id, c) ∧
      Act.triggerAll c.actions (p.say (c.words p.world.player.name d.speaker)) = (.ok (), q) ∧
      (if c.disableAfterChosen then q.withdraw id else q).Steady base ∧
      Fits base { d with thread := { d.thread with layer := c.target } } ∧
      d.answer (.line line) p = proceed { d with thread := { d.thread with layer := c.target } }
        (if c.disableAfterChosen then q.withdraw id else q)) ∨
    (∀ k, Numeral line (k + 1) → (p.offers d.thread.layer).length ≤ k) ∧
      d.answer (.line line) p
        = d.proceed (p.say [.actionFailure p.world.game.texts.invalidChoice]) := by
  rw [answer, hoffered]
  rcases chosen?_cases (p.offers d.thread.layer) line with
    ⟨k, ⟨id, c⟩, hnumber, hshown, hchosen⟩ | ⟨hother, hchosen⟩
  · obtain ⟨q, hq, hchoose, hsteady, htarget⟩ :=
      choose_open hs hp (List.mem_of_getElem? hshown) d.speaker
    refine .inl ⟨k, id, c, q, hnumber, hshown, hq, hsteady, ⟨htarget, hd.after⟩, ?_⟩
    simp only [hchosen]
    exact bind_of_ok hchoose
  · refine .inr ⟨hother, ?_⟩
    simp only [hchosen]
    rfl

theorem settle_none (inputs : List Input) : settle none inputs = pure () := by
  unfold settle
  rfl

/-- A conversation that has ended is over, whatever is still sent. -/
theorem close_end (d : Dialogue) {k : Option Dialogue → Act Unit} (hk : k none = pure ())
    (p : Play) : (d.close >>= k) p = d.conclude p := by
  rw [close_bind, hk, bind_pure_unit]

/-- A conversation that is carried on from where it is goes through its layers to the end. -/
theorem exists_follows (hs : base.Sound) : ∀ {inputs : List Input} {d : Dialogue} {p : Play},
    (∀ input ∈ inputs, ∀ text, input ≠ .broken text) → p.Steady base → d.Fits base →
    ∃ p', Follows d.speaker d.thread.layer p inputs p' ∧ p'.Steady base ∧
      (d.proceed >>= fun r => settle r inputs) p = d.conclude p' := by
  intro inputs
  induction inputs with
  | nil =>
    intro d p _ hp hd
    by_cases hgoes : p.GoesOn d.thread.layer
    · refine ⟨_, .silent hgoes, ⟨hp.intact, hp.accepted⟩, ?_⟩
      rw [bind_of_ok (proceed_of_goesOn hp.intact hs hd hgoes), settle, hear, bind_assoc]
      exact close_end d rfl ((p.offer d.thread.layer).hear .ended)
    · refine ⟨p, .ends hgoes, hp, ?_⟩
      rw [bind_congr_at (proceed_of_not_goesOn hp.intact hs hd hgoes), close_end d (settle_none [])]
  | cons input inputs ih =>
    intro d p hinputs hp hd
    obtain ⟨hinput, hrest⟩ := List.forall_mem_cons.1 hinputs
    by_cases hgoes : p.GoesOn d.thread.layer
    · have hheard : ((p.offer d.thread.layer).hear input).Steady base := ⟨hp.intact, hp.accepted⟩
      rw [bind_of_ok (proceed_of_goesOn hp.intact hs hd hgoes), settle, hear, bind_assoc]
      change ∃ p', _ ∧ _ ∧ (answer _ input >>= fun r => settle r inputs)
        ((p.offer d.thread.layer).hear input) = d.conclude p'
      cases input with
      | broken text => exact absurd rfl (hinput text)
      | ended => exact ⟨_, .stopped hgoes (.inl rfl), hheard, close_end d (settle_none _) _⟩
      | interrupt => exact ⟨_, .stopped hgoes (.inr rfl), hheard, close_end d (settle_none _) _⟩
      | line line =>
        have hd' : Fits base { d with offered := (p.offers d.thread.layer).map (·.1) } :=
          ⟨hd.thread, hd.after⟩
        rcases answer_line hs hheard hd' rfl line with
          ⟨k, id, c, q, hnumber, hshown, hacts, hsteady, hfits, hanswer⟩ | ⟨hother, hanswer⟩
        · obtain ⟨p', hfollows, hp', heq⟩ := ih hrest hsteady hfits
          exact ⟨p', .chosen hgoes hnumber hshown hacts hfollows, hp',
            (bind_congr_at hanswer).trans heq⟩
        · obtain ⟨p', hfollows, hp', heq⟩ :=
            ih hrest (hheard.say [.actionFailure p.world.game.texts.invalidChoice]) hd'
          exact ⟨p', .unclear hgoes hother hfollows, hp', (bind_congr_at hanswer).trans heq⟩
    · refine ⟨p, .ends hgoes, hp, ?_⟩
      rw [bind_congr_at (proceed_of_not_goesOn hp.intact hs hd hgoes), close_end d (settle_none _)]

/-- In a world that has come from a story every conversation, with whoever and whatever the player
sends, comes to an end without a failure. It begins with the greeting, goes through its layers in
the one way that there is, and ends with the farewell that it had in the beginning; then the actions
that follow it run. -/
theorem follows_of_load {s : Story} {w : World} (hd : s.DistinctIds) (hload : load s = .ok w)
    {p : Play} (hreached : Develops w p.world)
    (haccepts : ∀ calls call, p.store.refusal? calls call = none)
    {conversation : EntityId .conversation} {c : Conversation}
    (hc : p.world.get? conversation = some c) {after : List (EntityId .action)}
    (hafter : p.world.HasAll after) (speaker : String) {inputs : List Input}
    (hinputs : ∀ input ∈ inputs, ∀ text, input ≠ .broken text) :
    ∃ p₁ p', Follows speaker c.startLayer (p.say (c.greeting.toList.map (.speech speaker))) inputs
        p₁ ∧
      (∀ p₂, Follows speaker c.startLayer (p.say (c.greeting.toList.map (.speech speaker))) inputs
        p₂ → p₂ = p₁) ∧
      Act.triggerAll after (p₁.say (c.farewell.toList.map (.speech speaker))) = (.ok (), p') ∧
      (do settle (← begin conversation speaker after) inputs : Act Unit) p = (.ok (), p') := by
  have hloaded := loaded_of_load hload
  have hs := hloaded.sound_ofStory hd
  have hp : p.Steady (ofStory s) := ⟨(hloaded.intact hd).keeps hreached.keeps, haccepts⟩
  have hfits : Fits (ofStory s) ⟨⟨conversation, c.startLayer⟩, speaker, c.farewell, [], after⟩ :=
    ⟨Thread.fits_start hp.intact hs hc, fun id hid => hp.intact.has_base (hafter id hid)⟩
  obtain ⟨p₁, hfollows, hp₁, heq⟩ :=
    exists_follows hs hinputs (hp.say (c.greeting.toList.map (.speech speaker))) hfits
  obtain ⟨p', hacts, -, -⟩ := Act.triggerAll_ok hs hfits.after
    (p := p₁.say (c.farewell.toList.map (.speech speaker))) hp₁.intact hp₁.accepted
  exact ⟨p₁, p', hfollows, fun p₂ h => hfollows.unique h, hacts,
    (bind_congr_at (begin_eq hc speaker after)).trans (heq.trans hacts)⟩

/-- The guard is asked their question after a number that stands for nothing, and then the lamp is
taken. -/
theorem follows_of_load_gateStory : ∃ w c p₁ p', load Story.gateStory = .ok w ∧
    w.get? (idOf "chat" : EntityId .conversation) = some c ∧
    Follows "Guard" (Conversation.startLayer c)
      (({ world := w } : Play).say ((Conversation.greeting c).toList.map (.speech "Guard")))
      [.line "7", .line " +1 "] p₁ ∧
    Act.triggerAll [.owned "lamp" "take"]
      (p₁.say ((Conversation.farewell c).toList.map (.speech "Guard"))) = (.ok (), p') ∧
    (do settle (← begin (idOf "chat") "Guard" [.owned "lamp" "take"])
          [.line "7", .line " +1 "] : Act Unit) { world := w } = (.ok (), p') := by
  obtain ⟨w, hload⟩ := load_gateStory
  have hd := Story.distinctIds_gateStory
  have hloaded := loaded_of_load hload
  obtain ⟨c, hc⟩ := hloaded.has_conversation hd (List.mem_singleton.2 rfl)
  obtain ⟨lamp, hlamp, hsymbol⟩ : ∃ i ∈ Story.gateStory.items, i.symbol = "lamp" :=
    ⟨_, List.mem_singleton.2 rfl, rfl⟩
  have hafter : w.HasAll [EntityId.owned "lamp" "take"] := by
    have htake : takeActionId lamp = .owned lamp.symbol "take" := rfl
    rw [← hsymbol, ← htake]
    exact List.forall_mem_singleton.2 (hloaded.has_takeAction hd hlamp)
  have hinputs : ∀ input ∈ [Input.line "7", .line " +1 "], ∀ text, input ≠ .broken text := by simp
  obtain ⟨p₁, p', hfollows, -, hacts, heq⟩ := follows_of_load hd hload (p := { world := w }) .refl
    (fun _ _ => rfl) hc hafter "Guard" hinputs
  exact ⟨w, c, p₁, p', hload, hc, hfollows, hacts, heq⟩

end Dialogue

end Adventure
