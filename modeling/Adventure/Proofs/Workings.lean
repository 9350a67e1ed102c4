import Adventure.Play.Session
import Adventure.Proofs.Steps

/-!
# What handlers are made of

Whatever line the player sends, the act that carries it out is put together from a few single acts:
to look at the world, to say something, to show what has been said, to read the line, to leave the
game and to run an action that is found enabled (`Act.Made`). An answer in a conversation may
withdraw a choice besides. That every handler is made in this way is gone through here once;
what holds of the single acts and passes to sequences then holds of every command
(`Act.made_execute`) and of every answer (`Dialogue.made_answer`).
-/

namespace Adventure

namespace Act

variable {α β : Type}

/-- Acts that are put together from single ones. Only with `acts` an action may run, only with
`withdraws` a choice may be withdrawn and only with `reads` a line may be read. -/
inductive Made (acts withdraws reads : Prop) : {α : Type} → Act α → Prop
  | pure {α : Type} (a : α) : Made acts withdraws reads (Pure.pure a)
  | bind {α β : Type} {m : Act α} {f : α → Act β} (first : Made acts withdraws reads m)
      (next : ∀ a, Made acts withdraws reads (f a)) : Made acts withdraws reads (m >>= f)
  | look {α : Type} (f : World → Except Failure α) : Made acts withdraws reads (look f)
  | push (item : ViewItem) : Made acts withdraws reads (push item)
  | display : Made acts withdraws reads display
  | parse (allowed : reads) (line : String) : Made acts withdraws reads (parse line)
  | quit : Made acts withdraws reads (finish .quit)
  | whenOver {α : Type} {m m' : Act α} (ended : Made acts withdraws reads m)
      (running : Made acts withdraws reads m') :
      Made acts withdraws reads (get >>= fun p => if p.isOver then m else m')
  /-- An action is found. If it is made up of others, `f` says what becomes of these. -/
  | run (allowed : acts) {id : EntityId .action} {f : World.Action → Act Unit}
      (several : ∀ action, action.parts?.isSome → Made acts withdraws reads (f action))
      (single : ∀ action, action.parts? = none → f action = runSingle action) :
      Made acts withdraws reads (find id >>= f)
  | withdraw (allowed : withdraws) (id : EntityId .choice) :
      Made acts withdraws reads (edit (Edit.change id fun c => { c with enabled := false }))

variable {acts withdraws reads : Prop}

namespace Made

theorem ite {c : Prop} [Decidable c] {m m' : Act α} (hm : Made acts withdraws reads m)
    (hm' : Made acts withdraws reads m') : Made acts withdraws reads (if c then m else m') := by
  split
  · exact hm
  · exact hm'

theorem when {c : Prop} [Decidable c] {m : Act Unit} {k : Unit → Act α}
    (hm : Made acts withdraws reads m) (hk : ∀ u, Made acts withdraws reads (k u)) :
    Made acts withdraws reads (if c then m >>= k else k ()) :=
  .ite (hm.bind hk) (hk ())

theorem whenNot {c : Prop} [Decidable c] {m : Act Unit} {k : Unit → Act α}
    (hm : Made acts withdraws reads m) (hk : ∀ u, Made acts withdraws reads (k u)) :
    Made acts withdraws reads (if c then k () else m >>= k) :=
  .ite (hk ()) (hm.bind hk)

theorem forM {f : α → Act PUnit} (h : ∀ a, Made acts withdraws reads (f a)) :
    ∀ as : List α, Made acts withdraws reads (as.forM f)
  | [] => pure _
  | a :: as => (h a).bind fun _ => forM h as

end Made

/-! ## Single acts -/

theorem made_find {kind : EntityKind} (id : EntityId kind) : Made acts withdraws reads (find id) :=
  .look _

theorem made_world : Made acts withdraws reads world := .look _

theorem made_texts : Made acts withdraws reads texts := .look _

theorem made_fail (failure : Failure) : Made acts withdraws reads (fail failure : Act α) :=
  .look fun _ => .error failure

/-! ## Messages -/

theorem made_notFound (text : Texts → String) (word : String) :
    Made acts withdraws reads (notFound text word) :=
  made_texts.bind fun _ => .push _

theorem made_refuse (subject : Text.Subject) : Made acts withdraws reads (refuse subject) :=
  made_texts.bind fun _ => .push _

theorem made_report (allowed : Bool) (text : String) (first : Text.Subject)
    (second : Option Text.Subject) :
    Made acts withdraws reads (report allowed text first second) := .push _

theorem made_list (header : String) (names : List String) :
    Made acts withdraws reads (list header names) :=
  .ite (.pure _) (.push _)

theorem made_describe : Made acts withdraws reads describe := by
  refine (Made.look _).bind fun location => (Made.push _).bind fun _ => ?_
  refine (Made.look _).bind fun items => (Made.look _).bind fun persons => ?_
  refine (Made.look _).bind fun ways => made_texts.bind fun texts => ?_
  exact (made_list _ _).bind fun _ => (made_list _ _).bind fun _ => made_list _ _

theorem made_inventory : Made acts withdraws reads inventory := by
  refine made_world.bind fun w => .ite (made_texts.bind fun _ => .push _) ?_
  exact (Made.look _).bind fun names => made_texts.bind fun _ => .push _

theorem made_help : Made acts withdraws reads help := made_world.bind fun _ => .push _

theorem made_exit : Made acts withdraws reads exit :=
  made_texts.bind fun _ => (Made.push _).bind fun _ => .quit

/-! ## Commands -/

section

variable (hacts : acts)
include hacts

theorem made_triggerFrom :
    ∀ (depth : Nat) (path : List (EntityId .action)) (id : EntityId .action),
      Made acts withdraws reads (triggerFrom depth path id)
  | 0, _, _ => .look _
  | depth + 1, path, id => by
    refine .ite (.look _) (.run hacts (fun action hparts => ?_) fun action hparts => ?_)
    · obtain ⟨parts, hparts⟩ := Option.isSome_iff_exists.1 hparts
      simp only [hparts]
      exact .forM (fun part => made_triggerFrom depth (id :: path) part) parts
    · simp only [hparts]

theorem made_trigger (id : EntityId .action) : Made acts withdraws reads (trigger id) :=
  made_world.bind fun _ => made_triggerFrom hacts _ _ _

theorem made_triggerAll (ids : List (EntityId .action)) :
    Made acts withdraws reads (triggerAll ids) :=
  .forM (made_trigger hacts) ids

theorem made_inspect (command : Command) : Made acts withdraws reads (inspect command) := by
  refine (Made.look _).bind fun found => ?_
  cases found with
  | none => exact made_notFound _ _
  | some ref =>
    refine (Made.look _).bind fun object => (Made.look _).bind fun inspection => ?_
    refine (Made.look _).bind fun accepted => .ite ?_ (made_refuse _)
    refine .whenNot (.push _) fun _ => made_texts.bind fun texts => ?_
    exact (Made.push _).bind fun _ => made_triggerAll hacts _

theorem made_takeItem (command : Command) (id : EntityId .item) :
    Made acts withdraws reads (takeItem command id) := by
  refine (made_find id).bind fun item => (Made.look _).bind fun accepted => ?_
  refine .ite ?_ (made_refuse _)
  refine (made_find _).bind fun action => made_texts.bind fun texts => ?_
  refine (made_report _ _ _ _).bind fun _ => (made_trigger hacts _).bind fun _ => ?_
  exact made_triggerAll hacts _

theorem made_take (command : Command) : Made acts withdraws reads (take command) := by
  refine (Made.look _).bind fun found => ?_
  split
  · exact made_takeItem hacts command _
  · exact made_notFound _ _

theorem made_moveThrough (command : Command) (id : EntityId .way) :
    Made acts withdraws reads (moveThrough command id) := by
  refine (made_find id).bind fun way => (Made.look _).bind fun accepted => ?_
  refine .ite ?_ (made_refuse _)
  refine (made_find _).bind fun action => made_texts.bind fun texts => ?_
  refine (made_report _ _ _ _).bind fun _ => made_world.bind fun w => ?_
  refine (made_trigger hacts _).bind fun _ => made_world.bind fun w' => ?_
  exact .when made_describe fun _ => made_triggerAll hacts _

theorem made_move (command : Command) : Made acts withdraws reads (move command) := by
  refine (Made.look _).bind fun found => ?_
  split
  · exact made_moveThrough hacts command _
  · exact made_notFound _ _

theorem made_useObject (command : Command) (name : String) (usage : Usage EntityId) :
    Made acts withdraws reads (useObject command name usage) := by
  refine (Made.look _).bind fun accepted => .ite ?_ (made_refuse _)
  refine made_texts.bind fun _ => (made_report _ _ _ _).bind fun _ => ?_
  exact made_triggerAll hacts _

theorem made_use (command : Command) : Made acts withdraws reads (use command) := by
  refine (Made.look _).bind fun found => ?_
  split
  · exact (made_find _).bind fun _ => made_useObject hacts _ _ _
  · exact (made_find _).bind fun _ => made_useObject hacts _ _ _
  · exact made_notFound _ _

theorem made_usePair (command : Command) (first : EntityId .inventoryItem) (second : ObjectRef) :
    Made acts withdraws reads (usePair command first second) := by
  refine made_world.bind fun w => (Made.look _).bind fun interaction => ?_
  refine made_texts.bind fun texts => ?_
  cases interaction with
  | none => exact made_report _ _ _ _
  | some i => exact (made_report _ _ _ _).bind fun _ => made_triggerAll hacts _

theorem made_useWith (command : Command) : Made acts withdraws reads (useWith command) := by
  refine (Made.look _).bind fun found => ?_
  split
  · refine (Made.look _).bind fun candidates => (Made.look _).bind fun partner => ?_
    cases partner with
    | none => exact made_texts.bind fun _ => .push _
    | some second => exact made_usePair hacts command _ second
  · exact made_notFound _ _

end

end Act

/-! ## Conversations -/

open Act

variable {acts withdraws reads : Prop}

namespace Dialogue

section

variable (hacts : acts)
include hacts

theorem made_close (d : Dialogue) : Made acts withdraws reads d.close := by
  have hafter : Made acts withdraws reads (do
      triggerAll d.after
      return none : Act (Option Dialogue)) :=
    (made_triggerAll hacts _).bind fun _ => .pure _
  unfold close
  cases d.farewell with
  | none => exact hafter
  | some farewell => exact (Made.push _).bind fun _ => hafter

theorem made_proceed (d : Dialogue) : Made acts withdraws reads d.proceed := by
  refine .whenOver (made_close hacts d) ?_
  refine (Made.look _).bind fun offered => .ite (made_close hacts d) ?_
  refine (Made.look _).bind fun texts => made_texts.bind fun _ => (Made.push _).bind fun _ => ?_
  exact Made.display.bind fun _ => .pure _

theorem made_begin (conversation : EntityId .conversation) (speaker : String)
    (after : List (EntityId .action)) :
    Made acts withdraws reads (begin conversation speaker after) := by
  refine (made_find conversation).bind fun c => ?_
  have hstart : Made acts withdraws reads (do
      let thread ← look (Thread.start conversation)
      proceed ⟨thread, speaker, c.farewell, [], after⟩) :=
    (Made.look _).bind fun _ => made_proceed hacts _
  cases c.greeting with
  | none => exact hstart
  | some greeting => exact (Made.push _).bind fun _ => hstart

end

theorem made_choose (t : Thread) (speaker : String) (id : EntityId .choice) :
    Made True True reads (t.choose speaker id) := by
  refine (made_find id).bind fun choice => .ite ((made_fail _).bind fun _ => ?_) ?_
  all_goals
    refine made_world.bind fun w => (Made.push _).bind fun _ => ?_
    refine .whenNot (.push _) fun _ => (made_triggerAll trivial _).bind fun _ => ?_
    exact .when (.withdraw trivial id) fun _ => .pure _

/-- Whatever the player sends in a conversation. -/
theorem made_answer (d : Dialogue) (input : Input) : Made True True reads (d.answer input) := by
  cases input with
  | broken text => exact made_fail _
  | ended | interrupt => exact made_close trivial d
  | line line =>
    rw [answer]
    cases chosen? d.offered line with
    | some choice => exact (made_choose _ _ _).bind fun _ => made_proceed trivial _
    | none => exact made_texts.bind fun _ => (Made.push _).bind fun _ => made_proceed trivial d

end Dialogue

namespace Act

section

variable (hacts : acts)
include hacts

theorem made_talkWith (command : Command) (id : EntityId .person) :
    Made acts withdraws reads (talkWith command id) := by
  refine (made_find id).bind fun person => (Made.look _).bind fun accepted => ?_
  refine .ite ?_ ((made_refuse _).bind fun _ => .pure _)
  have hafter : Made acts withdraws reads (do
      triggerAll person.talk.actions
      return none : Act (Option Dialogue)) :=
    (made_triggerAll hacts _).bind fun _ => .pure _
  refine made_texts.bind fun texts => .ite ?_ ((made_report _ _ _ _).bind fun _ => hafter)
  cases person.talk.conversation with
  | none => exact (Made.push _).bind fun _ => hafter
  | some conversation => exact Dialogue.made_begin hacts _ _ _

theorem made_talkTo (command : Command) : Made acts withdraws reads (talkTo command) := by
  refine (Made.look _).bind fun found => ?_
  split
  · exact made_talkWith hacts command _
  · exact (made_notFound _ _).bind fun _ => .pure _

/-! ## Lines -/

theorem made_carryOut (command : Command) : Made acts withdraws reads (carryOut command) := by
  unfold carryOut
  cases command.verb with
  | exit => exact made_exit.bind fun _ => .pure _
  | help => exact made_help.bind fun _ => .pure _
  | lookAround => exact made_describe.bind fun _ => .pure _
  | inventory => exact made_inventory.bind fun _ => .pure _
  | inspect => exact (made_inspect hacts command).bind fun _ => .pure _
  | take => exact (made_take hacts command).bind fun _ => .pure _
  | talkTo => exact made_talkTo hacts command
  | move => exact (made_move hacts command).bind fun _ => .pure _
  | useWith => exact (made_useWith hacts command).bind fun _ => .pure _
  | use => exact (made_use hacts command).bind fun _ => .pure _

/-- Whatever line the player sends as a command. -/
theorem made_execute (line : String) : Made acts withdraws True (execute line) := by
  refine (Made.parse trivial line).bind fun command => ?_
  cases command with
  | none => exact made_texts.bind fun _ => (Made.push _).bind fun _ => .pure _
  | some command => exact made_carryOut hacts command

end

end Act

/-! ## Sessions -/

namespace Session

open Steps Act

theorem made_opening : Made acts withdraws reads opening := by
  refine made_world.bind fun w => .whenNot (.push _) fun _ => ?_
  exact made_describe.bind fun _ => Made.display.bind fun _ => .pure _

theorem play_ofAct (act : Act Phase) (p : Play) : (ofAct act p).play = (act p).2 := by
  unfold ofAct
  rcases act p with ⟨_ | _, _⟩ <;> rfl

section

variable {R : Play → Play → Prop} [Std.Refl R] [IsTrans Play R]
  (made : ∀ {α : Type} {m : Act α}, Made True True True m → Moves R m)
  (told : Moves R (tell .commit))
include made told

theorem moves_continueCommand (dialogue : Option Dialogue) :
    Moves R (continueCommand dialogue) := by
  cases dialogue with
  | none => exact (made .display).bind fun _ => told.bind fun _ => Moves.get.bind fun _ => .pure _
  | some d => exact .pure _

/-- Between two lines a session does nothing but what handlers are made of, and commits. -/
theorem moves_takeCommand (input : Input) : Moves R (takeCommand input) := by
  cases input with
  | broken text => exact made (made_fail _)
  | ended =>
    refine (made made_exit).bind fun _ => (made .display).bind fun _ => ?_
    exact told.bind fun _ => .pure _
  | interrupt => exact (made (.push _)).bind fun _ => (made .display).bind fun _ => .pure _
  | line line =>
    refine .ite (.pure _) ((made (made_execute trivial line)).bind fun dialogue => ?_)
    exact moves_continueCommand made told dialogue

end

end Session

end Adventure
