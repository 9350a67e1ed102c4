import Adventure.Play.Handlers
import Adventure.Proofs.Steps

/-!
# Idle commands

A command does something only if its words lead to an object that answers to its phrasing
(`World.Answers`). Where they do not, be it that an object is missing, that it does not answer or
that looking for it fails, the player is told so at most: messages and compiled patterns are added
to the play, and nothing else of it changes unless the player leaves the game (`Act.execute_idle`).

Each handler looks at the world until it has found the object and asked whether it answers; only
then it acts. So the handlers are followed up to that question, and what they do after it is not
looked at.
-/

namespace Adventure

open Steps

/-! ## What commands reach -/

/-- The words of the command lead to an object that answers to its phrasing; of two objects that
are used with each other, one of the interactions between them does. -/
inductive World.Answers (w : World) (command : Command) : Prop
  | inspect {ref : ObjectRef} {object : Object} {inspection : Option (Inspection EntityId)}
      (hverb : command.verb = .inspect)
      (hfound : w.search [.itemsHere, .inventory, .personsHere, .waysOut] command.first
        = .ok (some ref))
      (hobject : w.object ref = .ok object) (hinspection : w.inspection ref = .ok inspection)
      (hanswers : command.acceptedBy (inspection.getD {}).phrasings = .ok true)
  | take {id : EntityId .item} {item : World.Item} (hverb : command.verb = .take)
      (hfound : w.search [.itemsHere] command.first = .ok (some (.item id)))
      (hitem : w.find id = .ok item)
      (hanswers : command.acceptedBy item.takePhrasings = .ok true)
  | move {id : EntityId .way} {way : World.Way} (hverb : command.verb = .move)
      (hfound : w.search [.waysOut] command.first = .ok (some (.way id)))
      (hway : w.find id = .ok way)
      (hanswers : command.acceptedBy way.movePhrasings = .ok true)
  | talkTo {id : EntityId .person} {person : World.Person} (hverb : command.verb = .talkTo)
      (hfound : w.search [.personsHere] command.first = .ok (some (.person id)))
      (hperson : w.find id = .ok person)
      (hanswers : command.acceptedBy person.talk.phrasings = .ok true)
  | useItem {id : EntityId .item} {item : World.Item} (hverb : command.verb = .use)
      (hfound : w.search [.itemsHere, .inventory] command.first = .ok (some (.item id)))
      (hitem : w.find id = .ok item)
      (hanswers : command.acceptedBy item.usage.phrasings = .ok true)
  | useCarried {id : EntityId .inventoryItem} {item : World.InventoryItem}
      (hverb : command.verb = .use)
      (hfound : w.search [.itemsHere, .inventory] command.first = .ok (some (.inventoryItem id)))
      (hitem : w.find id = .ok item)
      (hanswers : command.acceptedBy item.usage.phrasings = .ok true)
  | useWith {first : EntityId .inventoryItem} {candidates : List ObjectRef} {second : ObjectRef}
      {refusing others : List (Interaction EntityId ObjectRef)}
      {interaction : Interaction EntityId ObjectRef} (hverb : command.verb = .useWith)
      (hfound : w.search [.inventory] command.first = .ok (some (.inventoryItem first)))
      (hcandidates : Act.partners w first = .ok candidates)
      (hpartner : w.findNamed command.second candidates = .ok (some second))
      (hbetween : Act.interactionsBetween w first second
        = .ok (refusing ++ interaction :: others))
      (hrefusing : ∀ i ∈ refusing, command.acceptedBy i.phrasings = .ok false)
      (hanswers : command.acceptedBy interaction.phrasings = .ok true)

/-! ## Saying something -/

/-- Messages have been added to those that wait, and nothing else has changed. -/
def Play.Says (p q : Play) : Prop := ∃ items, q = p.say items

instance : Std.Refl Play.Says := ⟨fun p => ⟨[], p.say_nil.symm⟩⟩

instance : IsTrans Play Play.Says := ⟨by
  rintro p _ _ ⟨items, rfl⟩ ⟨others, rfl⟩
  exact ⟨items ++ others, p.say_say items others⟩⟩

namespace Act

open Play (Says)

theorem says_push (item : ViewItem) : Moves Says (push item) := fun _ => ⟨[item], rfl⟩

theorem says_look {α : Type} (f : World → Except Failure α) : Moves Says (look f) :=
  fun p => refl_of Says p

theorem says_notFound (text : Texts → String) (word : String) : Moves Says (notFound text word) :=
  (says_look _).bind fun _ => says_push _

theorem says_refuse (subject : Text.Subject) : Moves Says (refuse subject) :=
  (says_look _).bind fun _ => says_push _

theorem says_list (header : String) (names : List String) : Moves Says (list header names) :=
  .ite (.pure _) (says_push _)

theorem says_describe : Moves Says describe := by
  refine (says_look _).bind fun location => (says_push _).bind fun _ => ?_
  refine (says_look _).bind fun items => (says_look _).bind fun persons => ?_
  refine (says_look _).bind fun ways => (says_look _).bind fun texts => ?_
  exact (says_list _ _).bind fun _ => (says_list _ _).bind fun _ => says_list _ _

theorem says_inventory : Moves Says inventory := by
  refine (says_look _).bind fun w => .ite ((says_look _).bind fun _ => says_push _) ?_
  exact (says_look _).bind fun names => (says_look _).bind fun _ => says_push _

theorem says_help : Moves Says help := (says_look _).bind fun _ => says_push _

/-! ## Up to the question -/

/-- Where an act goes on after a look at the world, the look fails or its result is at hand. -/
theorem of_look {α β : Type} {f : World → Except Failure α} {g : α → Act β} {p : Play}
    {C : Except Failure β × Play → Prop} (hfail : ∀ failure, C (.error failure, p))
    (h : ∀ a, f p.world = .ok a → C (g a p)) : C ((look f >>= g) p) := by
  have hlook : look f p = (f p.world, p) := rfl
  rcases hf : f p.world with failure | a <;> rw [hf] at hlook
  · rw [bind_of_error hlook]
    exact hfail failure
  · rw [bind_of_ok hlook]
    exact h a hf

section

variable {command : Command} {p : Play}

theorem says_after {α β : Type} {f : World → Except Failure α} {g : α → Act β}
    (h : ∀ a, f p.world = .ok a → Says p (g a p).2) : Says p ((look f >>= g) p).2 :=
  of_look (C := fun r => Says p r.2) (fun _ => refl_of Says p) h

/-- An object is asked whether it answers, and it does not. -/
theorem says_unless {phrasings : List String} {m : Act Unit} {subject : Text.Subject}
    (h : command.acceptedBy phrasings ≠ .ok true) :
    Says p ((do if ← accepts command phrasings then m else refuse subject : Act Unit) p).2 :=
  says_after fun accepted haccepted => by
    cases accepted with
    | true => exact absurd haccepted h
    | false => exact says_refuse subject p

theorem says_inspect (h : ¬ p.world.Answers command) (hverb : command.verb = .inspect) :
    Says p (inspect command p).2 := by
  refine says_after fun found hfound => ?_
  cases found with
  | none => exact says_notFound _ _ p
  | some ref =>
    refine says_after fun object hobject => says_after fun inspection hinspection => ?_
    exact says_unless fun hanswers => h (.inspect hverb hfound hobject hinspection hanswers)

theorem says_take (h : ¬ p.world.Answers command) (hverb : command.verb = .take) :
    Says p (take command p).2 := by
  refine says_after fun found hfound => ?_
  split
  · refine says_after fun item hitem => says_unless fun hanswers => ?_
    exact h (.take hverb hfound hitem hanswers)
  · exact says_notFound _ _ p

theorem says_move (h : ¬ p.world.Answers command) (hverb : command.verb = .move) :
    Says p (move command p).2 := by
  refine says_after fun found hfound => ?_
  split
  · refine says_after fun way hway => says_unless fun hanswers => ?_
    exact h (.move hverb hfound hway hanswers)
  · exact says_notFound _ _ p

theorem says_use (h : ¬ p.world.Answers command) (hverb : command.verb = .use) :
    Says p (use command p).2 := by
  refine says_after fun found hfound => ?_
  split
  · refine says_after fun item hitem => says_unless fun hanswers => ?_
    exact h (.useItem hverb hfound hitem hanswers)
  · refine says_after fun item hitem => says_unless fun hanswers => ?_
    exact h (.useCarried hverb hfound hitem hanswers)
  · exact says_notFound _ _ p

/-- The first interaction that answers comes after others that do not. -/
theorem of_firstAccepting {interactions : List (Interaction EntityId ObjectRef)}
    {interaction : Interaction EntityId ObjectRef}
    (h : firstAccepting command interactions = .ok (some interaction)) :
    ∃ refusing others, interactions = refusing ++ interaction :: others ∧
      (∀ i ∈ refusing, command.acceptedBy i.phrasings = .ok false) ∧
      command.acceptedBy interaction.phrasings = .ok true := by
  induction interactions with
  | nil => cases h
  | cons i rest ih =>
    obtain ⟨answers, hanswers, h⟩ := bind_eq_ok.1 h
    cases answers with
    | true =>
      cases h
      exact ⟨[], rest, rfl, nofun, hanswers⟩
    | false =>
      obtain ⟨refusing, others, rfl, hrefusing, hlast⟩ := ih h
      exact ⟨i :: refusing, others, rfl, List.forall_mem_cons.2 ⟨hanswers, hrefusing⟩, hlast⟩

theorem says_useWith (h : ¬ p.world.Answers command) (hverb : command.verb = .useWith) :
    Says p (useWith command p).2 := by
  refine says_after fun found hfound => ?_
  split
  · refine says_after fun candidates hcandidates => says_after fun partner hpartner => ?_
    cases partner with
    | none => exact says_after fun _ _ => says_push _ p
    | some second =>
      refine says_after fun w hw => says_after fun interaction hinteraction => ?_
      refine says_after fun texts _ => ?_
      cases interaction with
      | none => exact says_push _ p
      | some i =>
        obtain ⟨interactions, hbetween, haccepting⟩ := bind_eq_ok.1 hinteraction
        obtain ⟨refusing, others, rfl, hrefusing, hanswers⟩ := of_firstAccepting haccepting
        exact absurd (.useWith hverb hfound hcandidates hpartner hbetween hrefusing hanswers) h
  · exact says_notFound _ _ p

end

/-! ## Commands -/

/-- Nothing comes of an act but messages, and no conversation waits for the player. -/
def IdleAt (p : Play) (r : Except Failure (Option Dialogue) × Play) : Prop :=
  Says p r.2 ∧ ∀ dialogue, r.1 ≠ .ok (some dialogue)

section

variable {command : Command} {p : Play}

theorem idleAt_none {m : Act Unit} (h : Says p (m p).2) :
    IdleAt p ((do m; return none : Act (Option Dialogue)) p) := by
  rcases hm : m p with ⟨failure | u, q⟩ <;> rw [hm] at h
  · rw [bind_of_error hm]
    exact ⟨h, nofun⟩
  · rw [bind_of_ok hm]
    exact ⟨h, nofun⟩

theorem idleAt_after {α : Type} {f : World → Except Failure α} {g : α → Act (Option Dialogue)}
    (h : ∀ a, f p.world = .ok a → IdleAt p (g a p)) : IdleAt p ((look f >>= g) p) :=
  of_look (fun _ => ⟨refl_of Says p, nofun⟩) h

theorem idleAt_talkTo (h : ¬ p.world.Answers command) (hverb : command.verb = .talkTo) :
    IdleAt p (talkTo command p) := by
  refine idleAt_after fun found hfound => ?_
  split
  · refine idleAt_after fun person hperson => idleAt_after fun accepted haccepted => ?_
    cases accepted with
    | true => exact absurd (.talkTo hverb hfound hperson haccepted) h
    | false => exact idleAt_none (says_refuse _ p)
  · exact idleAt_none (says_notFound _ _ p)

/-- A command that reaches nothing that answers, other than to leave the game. -/
theorem idleAt_carryOut (h : ¬ p.world.Answers command) (hstays : command.verb ≠ .exit) :
    IdleAt p (carryOut command p) := by
  unfold carryOut
  cases hverb : command.verb with
  | exit => exact absurd hverb hstays
  | help => exact idleAt_none (says_help p)
  | lookAround => exact idleAt_none (says_describe p)
  | inventory => exact idleAt_none (says_inventory p)
  | inspect => exact idleAt_none (says_inspect h hverb)
  | take => exact idleAt_none (says_take h hverb)
  | talkTo => exact idleAt_talkTo h hverb
  | move => exact idleAt_none (says_move h hverb)
  | useWith => exact idleAt_none (says_useWith h hverb)
  | use => exact idleAt_none (says_use h hverb)

end

/-- A line that is no command, or one whose words lead to no object that answers, changes nothing
but that messages and patterns may be added. This holds as well where finding out about the command
or its objects fails. No conversation waits for the player then, and whether the game goes on
changes only with the command to leave it. -/
theorem execute_idle {line : String} {p : Play}
    (h : ∀ command, (parse line p).1 = .ok (some command) → ¬ p.world.Answers command) :
    ∃ items cache status,
      (execute line p).2 = { p.say items with cache, status } ∧
      (∀ dialogue, (execute line p).1 ≠ .ok (some dialogue)) ∧
      (status = p.status ∨ status = .quit ∧
        ∃ command, (parse line p).1 = .ok (some command) ∧ command.verb = .exit) := by
  rcases hparse : parse line p with ⟨parsed, q⟩
  obtain ⟨cache, rfl⟩ : ∃ cache, q = { p with cache } := ⟨_, (congrArg Prod.snd hparse).symm⟩
  rw [hparse] at h
  have hidle {r} (hr : IdleAt { p with cache } r) : ∃ items cache status,
      r.2 = { p.say items with cache, status } ∧
      (∀ dialogue, r.1 ≠ .ok (some dialogue)) ∧
      (status = p.status ∨ status = .quit ∧
        ∃ command, parsed = .ok (some command) ∧ command.verb = .exit) := by
    obtain ⟨⟨items, hitems⟩, hnone⟩ := hr
    exact ⟨items, cache, p.status, hitems, hnone, .inl rfl⟩
  rw [execute]
  match parsed, hparse, h with
  | .error failure, hparse, _ =>
    rw [bind_of_error hparse]
    exact hidle ⟨refl_of Says _, nofun⟩
  | .ok none, hparse, _ =>
    rw [bind_of_ok hparse]
    exact hidle (idleAt_after fun _ _ => idleAt_none (says_push _ _))
  | .ok (some command), hparse, h =>
    rw [bind_of_ok hparse]
    by_cases hexit : command.verb = .exit
    · simp only [carryOut, hexit]
      exact ⟨[_], cache, .quit, rfl, nofun, .inr ⟨rfl, command, rfl, hexit⟩⟩
    · exact hidle (idleAt_carryOut (h command rfl) hexit)

/-- A lamp and a gem, of which only the gem can be grabbed. -/
def lampWorld : World :=
  let lamp : World.Item :=
    { id := ⟨⟨2⟩⟩, symbol := "lamp", name := "lamp", description := "", location := some ⟨⟨1⟩⟩
      identifiers := ["lamp"], takeAction := ⟨⟨4⟩⟩, takeSuccessText := none
      takePhrasings := [], takeActions := [], usage := {}, inspection := {} }
  let gem : World.Item :=
    { lamp with
      id := ⟨⟨3⟩⟩, symbol := "gem", name := "gem", identifiers := ["gem"]
      takePhrasings := ["grab <A>"] }
  { World.empty {} "1" with
    player := ⟨"", ⟨⟨1⟩⟩, []⟩
    locations := .ofList
      [(⟨⟨1⟩⟩, ⟨⟨⟨1⟩⟩, "hall", "Hall", "", [⟨⟨2⟩⟩, ⟨⟨3⟩⟩], [], []⟩)]
    items := .ofList [(⟨⟨2⟩⟩, lamp), (⟨⟨3⟩⟩, gem)] }

/-- The command to grab the lamp, in the phrasing of the gem. -/
def grabLamp : Command := ⟨.take, false, "grab lamp", [⟨"o0", "lamp"⟩]⟩

/-- The phrasing of the gem is understood, but the lamp does not answer to it. -/
theorem execute_idle_lamp :
    (parse "grab lamp" { world := lampWorld }).1.toOption.join.isSome = true ∧
    (∀ command, (parse "grab lamp" { world := lampWorld }).1 = .ok (some command) →
      ¬ lampWorld.Answers command) ∧
    ∃ items cache status, (execute "grab lamp" { world := lampWorld }).2
        = { ({ world := lampWorld } : Play).say items with cache, status } ∧
      (∀ dialogue, (execute "grab lamp" { world := lampWorld }).1 ≠ .ok (some dialogue)) ∧
      (status = .running ∨ status = .quit ∧ ∃ command,
        (parse "grab lamp" { world := lampWorld }).1 = .ok (some command) ∧
        command.verb = .exit) := by
  have hparsed : (parse "grab lamp" { world := lampWorld }).1.toOption.join
      = some grabLamp := by
    decide +kernel
  have hsearch : (lampWorld.search [.itemsHere] grabLamp.first).toOption
      = some (some (.item ⟨⟨2⟩⟩)) := by
    decide +kernel
  have hidle : ∀ command, (parse "grab lamp" { world := lampWorld }).1 = .ok (some command) →
      ¬ lampWorld.Answers command := by
    intro command hcommand hanswered
    rw [hcommand] at hparsed
    obtain rfl := Option.some.inj hparsed
    cases hanswered with
    | take _ hfound hitem hanswers =>
      rw [hfound] at hsearch
      cases hsearch
      cases hitem
      cases hanswers
    | inspect hverb | move hverb | talkTo hverb | useItem hverb | useCarried hverb
      | useWith hverb => cases hverb
  exact ⟨by rw [hparsed]; rfl, hidle, execute_idle hidle⟩

end Act

end Adventure
