import Adventure.Proofs.Attempts

/-!
# Using one object with another

A command to use one object with another names both. The first one is looked for among the
inventory items that the player carries, the second one among the others of these, then among the
items and the persons of the place (`World.Pairs`). What happens then is up to an interaction of the
first one with the second one or, failing that, of the second one with the first one
(`World.Settles`); so it does not matter on which of two inventory items an interaction is written
down. The actions of that interaction are all that runs (`Act.useWith_exact`).

All of this looks for the first element of a list that passes a test, where the test may fail in a
world that is not sound (`firstPassing`).
-/

namespace Adventure

open World Steps

/-! ## The first of a list -/

section

variable {α : Type} {test : α → Except Failure Bool} {as : List α} {a b : α}

/-- The first element of a list that passes a test. -/
def firstPassing (test : α → Except Failure Bool) : List α → Except Failure (Option α)
  | [] => .ok none
  | a :: as => do if ← test a then return some a else firstPassing test as

/-- The element passes the test, and those before it in the list do not. -/
def IsFirst (test : α → Except Failure Bool) (as : List α) (a : α) : Prop :=
  ∃ before after, as = before ++ a :: after ∧ (∀ b ∈ before, test b = .ok false) ∧
    test a = .ok true

theorem IsFirst.mem (h : IsFirst test as a) : a ∈ as := by
  obtain ⟨before, after, rfl, -⟩ := h
  simp

theorem not_isFirst_nil : ¬IsFirst test [] a := fun h => by simpa using h.mem

/-- The first element of a list is its head or, if the head does not pass, comes after it. -/
theorem isFirst_cons : IsFirst test (b :: as) a ↔
    b = a ∧ test b = .ok true ∨ test b = .ok false ∧ IsFirst test as a := by
  constructor
  · rintro ⟨_ | ⟨c, before⟩, after, heq, hbefore, ha⟩
    · obtain ⟨rfl, -⟩ := List.cons.inj heq
      exact .inl ⟨rfl, ha⟩
    · obtain ⟨rfl, rfl⟩ := List.cons.inj heq
      obtain ⟨hb, hbefore⟩ := List.forall_mem_cons.1 hbefore
      exact .inr ⟨hb, before, after, rfl, hbefore, ha⟩
  · rintro (⟨rfl, ha⟩ | ⟨hb, before, after, rfl, hbefore, ha⟩)
    · exact ⟨[], as, rfl, by simp, ha⟩
    · exact ⟨b :: before, after, rfl, List.forall_mem_cons.2 ⟨hb, hbefore⟩, ha⟩

/-- A search that does not fail finds the first element that passes the test. -/
theorem isFirst_iff {found : Option α} (h : firstPassing test as = .ok found) :
    IsFirst test as a ↔ found = some a := by
  induction as with
  | nil =>
    cases h
    simp [not_isFirst_nil]
  | cons b as ih =>
    obtain ⟨passes, htest, h⟩ := bind_eq_ok.1 h
    cases passes with
    | true =>
      cases h
      simp [isFirst_cons, htest]
    | false => simp [isFirst_cons, htest, ih h]

/-- Where the test does not fail, something is found if anything passes it. -/
theorem exists_firstPassing_iff (h : ∀ a ∈ as, ∃ passes, test a = .ok passes) :
    (∃ a, firstPassing test as = .ok (some a)) ↔ ∃ a ∈ as, test a = .ok true := by
  induction as with
  | nil => simp [firstPassing]
  | cons b as ih =>
    obtain ⟨⟨passes, htest⟩, hrest⟩ := List.forall_mem_cons.1 h
    have hcons : firstPassing test (b :: as)
        = if passes = true then .ok (some b) else firstPassing test as := by
      rw [firstPassing, htest]
      rfl
    cases passes with
    | true => simp [hcons, htest]
    | false => simp [hcons, htest, ih hrest]

/-- At most one element comes before those of another list. -/
theorem isFirst_toList_append {o : Option α} : IsFirst test (o.toList ++ as) a ↔
    o = some a ∧ test a = .ok true ∨
      (∀ b, o = some b → test b = .ok false) ∧ IsFirst test as a := by
  cases o with
  | none => simp
  | some b =>
    simp only [Option.toList_some, List.singleton_append, isFirst_cons, Option.some.injEq,
      forall_eq']
    refine or_congr_left ⟨?_, ?_⟩ <;> rintro ⟨rfl, h⟩ <;> exact ⟨rfl, h⟩

end

/-! ## Names -/

namespace World

variable {w : World} {word : String}

/-- Whether a word names an object. -/
def names? (w : World) (word : String) (ref : ObjectRef) : Except Failure Bool := do
  Identifier.accepts (← w.object ref).identifiers word

theorem findNamed_eq_firstPassing :
    ∀ refs : List ObjectRef, w.findNamed word refs = firstPassing (w.names? word) refs
  | [] => rfl
  | ref :: refs => by
    rw [findNamed, firstPassing, names?]
    cases hobject : w.object ref with
    | error failure => rfl
    | ok object =>
      change (do if ← Identifier.accepts object.identifiers word then _ else _) = _
      rw [findNamed_eq_firstPassing refs]
      rfl

theorem inScopes_eq {l : Location} (hl : w.get? w.player.location = some l)
    (scopes : List Scope) : w.inScopes scopes = .ok (scopes.flatMap (w.scopeAt l)) := by
  rw [inScopes, playerLocation_eq hl]
  rfl

/-- What an inventory item can be used with in a location: the others that the player carries, then
the items and then the persons that are there. -/
def partnersAt (w : World) (l : Location) (first : EntityId .inventoryItem) : List ObjectRef :=
  (w.player.inventory.filter (· ≠ first)).map .inventoryItem ++ l.items.map .item ++
    l.persons.map .person

theorem partners_eq {l : Location} (hl : w.get? w.player.location = some l)
    (first : EntityId .inventoryItem) : Act.partners w first = .ok (w.partnersAt l first) := by
  have hothers : (w.player.inventory.map ObjectRef.inventoryItem).filter (· ≠ .inventoryItem first)
      = (w.player.inventory.filter (· ≠ first)).map .inventoryItem := by
    rw [List.filter_map]
    congr 2
    funext id
    simp
  rw [Act.partners, inScopes_eq hl, inScopes_eq hl, partnersAt, ← hothers]
  simp [bind, Except.bind, pure, Except.pure, scopeAt]

theorem ne_of_mem_partnersAt {l : Location} {first : EntityId .inventoryItem} {ref : ObjectRef}
    (h : ref ∈ w.partnersAt l first) : ref ≠ .inventoryItem first := by
  rintro rfl
  simp [partnersAt] at h

/-- The two objects that a command names: the first inventory item that the player carries and that
the first word names, and the first of its partners that the second word names. -/
structure Pairs (w : World) (command : Command) (first : EntityId .inventoryItem)
    (second : ObjectRef) : Prop where
  carried : IsFirst (w.names? command.first) (w.player.inventory.map .inventoryItem)
    (.inventoryItem first)
  partner : ∃ l, w.get? w.player.location = some l ∧
    IsFirst (w.names? command.second) (w.partnersAt l first) second

theorem search_inventory {l : Location} (hl : w.get? w.player.location = some l) (word : String) :
    w.search [.inventory] word
      = firstPassing (w.names? word) (w.player.inventory.map .inventoryItem) := by
  rw [search, inScopes_eq hl]
  change w.findNamed word ([Scope.inventory].flatMap (w.scopeAt l)) = _
  rw [findNamed_eq_firstPassing, List.flatMap_singleton]
  rfl

/-- If looking for the two objects does not fail, what is found are the objects that are named. -/
theorem pairs_iff {l : Location} (hl : w.get? w.player.location = some l) {command : Command}
    {first x : EntityId .inventoryItem} {second : ObjectRef} {found : Option ObjectRef}
    (hfirst : w.search [.inventory] command.first = .ok (some (.inventoryItem first)))
    (hsecond : w.findNamed command.second (w.partnersAt l first) = .ok found) :
    w.Pairs command x second ↔ x = first ∧ found = some second := by
  rw [search_inventory hl] at hfirst
  rw [findNamed_eq_firstPassing] at hsecond
  constructor
  · rintro ⟨hcarried, l', hl', hpartner⟩
    obtain rfl := Option.some.inj (hl.symm.trans hl')
    obtain ⟨⟩ := (isFirst_iff hfirst).1 hcarried
    exact ⟨rfl, (isFirst_iff hsecond).1 hpartner⟩
  · rintro ⟨rfl, hfound⟩
    exact ⟨(isFirst_iff hfirst).2 rfl, l, hl, (isFirst_iff hsecond).2 hfound⟩

theorem Pairs.ne {command : Command} {first : EntityId .inventoryItem} {second : ObjectRef}
    (h : w.Pairs command first second) : second ≠ .inventoryItem first := by
  obtain ⟨l, -, hsecond⟩ := h.partner
  exact ne_of_mem_partnersAt hsecond.mem

/-! ## Interactions -/

/-- The interaction that decides what comes of using one object with another: that of the first one
if there is one that answers to the command, otherwise that of the second one, which has to be an
inventory item as well. -/
inductive Settles (w : World) (command : Command) (first : EntityId .inventoryItem)
    (second : ObjectRef) (i : Interaction EntityId ObjectRef) : Prop
  | own {item : InventoryItem} (found : w.get? first = some item)
      (interaction : item.interactionWith second = some i)
      (answers : command.acceptedBy i.phrasings = .ok true)
  | partner {item other : InventoryItem} {id : EntityId .inventoryItem}
      (found : w.get? first = some item)
      (refuses : ∀ own, item.interactionWith second = some own →
        command.acceptedBy own.phrasings = .ok false)
      (carried : second = .inventoryItem id) (others : w.get? id = some other)
      (interaction : other.interactionWith (.inventoryItem first) = some i)
      (answers : command.acceptedBy i.phrasings = .ok true)

end World

namespace Act

variable {w : World} {command : Command} {first : EntityId .inventoryItem} {second : ObjectRef}
  {i : Interaction EntityId ObjectRef}

/-- The interaction that is found for two objects, if there is one. -/
def interactionFor (w : World) (command : Command) (first : EntityId .inventoryItem)
    (second : ObjectRef) : Except Failure (Option (Interaction EntityId ObjectRef)) := do
  firstAccepting command (← interactionsBetween w first second)

theorem firstAccepting_eq_firstPassing :
    ∀ is : List (Interaction EntityId ObjectRef),
      firstAccepting command is = firstPassing (fun i => command.acceptedBy i.phrasings) is
  | [] => rfl
  | i :: is => by
    rw [firstAccepting, firstPassing, firstAccepting_eq_firstPassing is]

/-- If looking for an interaction does not fail, what it finds settles the matter. -/
theorem settles_iff {found : Option (Interaction EntityId ObjectRef)}
    (h : interactionFor w command first second = .ok found) :
    w.Settles command first second i ↔ found = some i := by
  obtain ⟨interactions, hbetween, hfound⟩ := bind_eq_ok.1 h
  rw [firstAccepting_eq_firstPassing] at hfound
  rw [← isFirst_iff hfound]
  obtain ⟨item, hitem, hbetween⟩ := bind_eq_ok.1 hbetween
  have hsame : ∀ {item' : InventoryItem}, w.get? first = some item' → item' = item :=
    fun hitem' => Option.some.inj (hitem'.symm.trans (find_eq_ok.1 hitem))
  cases second with
  | inventoryItem id =>
    obtain ⟨other, hother, hbetween⟩ := bind_eq_ok.1 hbetween
    rw [← Except.ok.inj hbetween, isFirst_toList_append, ← List.append_nil (Option.toList _),
      isFirst_toList_append]
    constructor
    · rintro (⟨hfound, hi, hanswers⟩ | ⟨hfound, hrefuses, ⟨⟩, hother', hi, hanswers⟩)
      · exact .inl ⟨hsame hfound ▸ hi, hanswers⟩
      · obtain rfl := Option.some.inj ((find_eq_ok.1 hother).symm.trans hother')
        exact .inr ⟨hsame hfound ▸ hrefuses, .inl ⟨hi, hanswers⟩⟩
    · rintro (⟨hi, hanswers⟩ | ⟨hrefuses, ⟨hi, hanswers⟩ | ⟨-, hnil⟩⟩)
      · exact .own (find_eq_ok.1 hitem) hi hanswers
      · exact .partner (find_eq_ok.1 hitem) hrefuses rfl (find_eq_ok.1 hother) hi hanswers
      · exact absurd hnil not_isFirst_nil
  | location | way | item | person =>
    rw [← Except.ok.inj hbetween, ← List.append_nil (Option.toList _), isFirst_toList_append]
    constructor
    · rintro (⟨hfound, hi, hanswers⟩ | ⟨-, -, ⟨⟩, -⟩)
      exact .inl ⟨hsame hfound ▸ hi, hanswers⟩
    · rintro (⟨hi, hanswers⟩ | ⟨-, hnil⟩)
      · exact .own (find_eq_ok.1 hitem) hi hanswers
      · exact absurd hnil not_isFirst_nil

/-- Between two inventory items the same interactions are found, whichever comes first. -/
theorem interactionsBetween_eq {x y : EntityId .inventoryItem} {item other : InventoryItem}
    (hx : w.get? x = some item) (hy : w.get? y = some other) :
    interactionsBetween w x (.inventoryItem y)
      = .ok ((item.interactionWith (.inventoryItem y)).toList ++
        (other.interactionWith (.inventoryItem x)).toList) := by
  simp [interactionsBetween, find_of_get? hx, find_of_get? hy, bind, Except.bind, pure, Except.pure]

/-- On which of two inventory items an interaction is written down makes no difference to whether
there is one that answers to a command. -/
theorem exists_interactionFor_symm {base : World} (hs : base.Sound) (hw : Intact base w)
    (hverb : command.verb = .useWith) {x y : EntityId .inventoryItem} (hx : w.Has x)
    (hy : w.Has y) (h : ∃ i, interactionFor w command x (.inventoryItem y) = .ok (some i)) :
    ∃ i, interactionFor w command y (.inventoryItem x) = .ok (some i) := by
  obtain ⟨item, hitem⟩ := hx
  obtain ⟨other, hother⟩ := hy
  have hfor : ∀ {x y : EntityId .inventoryItem} {item other : InventoryItem},
      w.get? x = some item → w.get? y = some other →
      ((∃ i, interactionFor w command x (.inventoryItem y) = .ok (some i)) ↔
        ∃ i ∈ (item.interactionWith (.inventoryItem y)).toList ++
          (other.interactionWith (.inventoryItem x)).toList,
          command.acceptedBy i.phrasings = .ok true) := by
    intro x y item other hx hy
    have heq : interactionFor w command x (.inventoryItem y)
        = firstPassing (fun i => command.acceptedBy i.phrasings)
          ((item.interactionWith (.inventoryItem y)).toList ++
            (other.interactionWith (.inventoryItem x)).toList) := by
      rw [interactionFor, interactionsBetween_eq hx hy, ← firstAccepting_eq_firstPassing]
      rfl
    rw [heq]
    refine exists_firstPassing_iff fun i hi => Command.acceptedBy_ok (hverb ▸ ?_)
    rcases List.mem_append.1 hi with hi | hi
    · exact (interactionWith_fits hw hs hx _ i hi).1
    · exact (interactionWith_fits hw hs hy _ i hi).1
  obtain ⟨i, hi, hanswers⟩ := (hfor hitem hother).1 h
  exact (hfor hother hitem).2 ⟨i, List.mem_append.2 (List.mem_append.1 hi).symm, hanswers⟩

/-! ## Commands -/

/-- What is said of an interaction between two objects. -/
def pairText (w : World) (command : Command) (first : EntityId .inventoryItem) (second : ObjectRef)
    (i : Interaction EntityId ObjectRef) : String :=
  Text.fillPlaceholders (outcomeText i.enabled i.successText i.forbiddenText w.game.texts.usedWith
    w.game.texts.notUsableWith) (some ⟨command.first, w.objectName (.inventoryItem first)⟩)
    (some ⟨command.second, w.objectName second⟩)

variable {p : Play}

/-- What is found between two objects decides how a command to use them goes on. -/
theorem usePair_eq {found : Option (Interaction EntityId ObjectRef)}
    (h : interactionFor p.world command first second = .ok found) :
    usePair command first second p = match found with
      | some i => triggerAll i.actions
        (p.say [verdict i.enabled (pairText p.world command first second i)])
      | none => (.ok (), p.say [.actionFailure (Text.fillPlaceholders
          p.world.game.texts.notUsableWith
          (some ⟨command.first, p.world.objectName (.inventoryItem first)⟩)
          (some ⟨command.second, p.world.objectName second⟩))]) := by
  have hworld : world p = (.ok p.world, p) := rfl
  have hlook : look (interactionFor · command first second) p = (.ok found, p) := by
    rw [look, h]
  have htexts : texts p = (.ok p.world.game.texts, p) := rfl
  unfold interactionFor at hlook
  rw [usePair, bind_of_ok hworld, bind_of_ok hlook, bind_of_ok htexts]
  cases found <;> rfl

theorem useWith_of_none (hfirst : p.world.search [.inventory] command.first = .ok none) :
    ∃ text, useWith command p = (.ok (), p.say [.entityNotFound text]) := by
  have hlook : look (·.search [.inventory] command.first) p = (.ok none, p) := by
    rw [look, hfirst]
  exact ⟨_, bind_of_ok hlook⟩

section

variable {l : Location} (hl : p.world.get? p.world.player.location = some l)
  (hfirst : p.world.search [.inventory] command.first = .ok (some (.inventoryItem first)))
include hl hfirst

/-- What the second word names decides how a command goes on. -/
theorem useWith_eq {partner : Option ObjectRef}
    (hsecond : p.world.findNamed command.second (p.world.partnersAt l first) = .ok partner) :
    useWith command p = match partner with
      | some second => usePair command first second p
      | none => (.ok (), p.say [.entityNotFound (Text.fillPlaceholders
          p.world.game.texts.noSuchPartner (some (.unresolved command.first))
          (some (.unresolved command.second)))]) := by
  have hlook : look (·.search [.inventory] command.first) p
      = (.ok (some (.inventoryItem first)), p) := by
    rw [look, hfirst]
  have hpartners : look (partners · first) p = (.ok (p.world.partnersAt l first), p) := by
    rw [look, partners_eq hl]
  have hnamed : look (·.findNamed command.second (p.world.partnersAt l first)) p
      = (.ok partner, p) := by
    rw [look, hsecond]
  refine (bind_of_ok hlook).trans ((bind_of_ok hpartners).trans ((bind_of_ok hnamed).trans ?_))
  cases partner <;> rfl

end

/-- In an intact world, looking for an interaction of two objects does not fail. -/
theorem interactionFor_ok {base : World} (hw : Intact base w) (hs : base.Sound)
    (hverb : command.verb = .useWith) (hfirst : base.Has first) (hsecond : base.Nameable second) :
    ∃ found, interactionFor w command first second = .ok found := by
  obtain ⟨interactions, hbetween, hfits⟩ := interactionsBetween_ok hw hs hfirst hsecond
  obtain ⟨found, haccepting, -⟩ := firstAccepting_ok hverb hfits
  exact ⟨found, bind_eq_ok.2 ⟨interactions, hbetween, haccepting⟩⟩

/-- In an intact world, the actions of one interaction are run, or the player is told that there is
none. -/
theorem useWith_cases {base : World} (hw : Intact base p.world) (hs : base.Sound)
    (hverb : command.verb = .useWith) :
    (∃ first second i, p.world.Pairs command first second ∧
      p.world.Settles command first second i ∧
      useWith command p = triggerAll i.actions
        (p.say [verdict i.enabled (pairText p.world command first second i)])) ∨
    (∀ first second i, p.world.Pairs command first second →
      ¬p.world.Settles command first second i) ∧
    ∃ item, (∀ text, item ≠ .actionSuccess text) ∧
      useWith command p = (.ok (), p.say [item]) := by
  obtain ⟨l, hl⟩ := hw.placed.here
  obtain ⟨found, hfirst, hnameable⟩ := search_ok hw hs [.inventory] command.first
  cases found with
  | none =>
    -- the player carries nothing that the first word names
    obtain ⟨text, heq⟩ := useWith_of_none hfirst
    rw [search_inventory hl] at hfirst
    refine .inr ⟨fun first second i hpairs => ?_, .entityNotFound text, nofun, heq⟩
    cases (isFirst_iff hfirst).1 hpairs.carried
  | some ref =>
    obtain ⟨first, -, rfl⟩ : ∃ first ∈ p.world.player.inventory, .inventoryItem first = ref :=
      List.mem_map.1 ((isFirst_iff ((search_inventory hl _).symm.trans hfirst)).2 rfl).mem
    obtain ⟨refs, hrefs, hall⟩ := partners_ok hw hs first
    obtain rfl := Except.ok.inj ((partners_eq hl first).symm.trans hrefs)
    obtain ⟨partner, hsecond, hnamed⟩ := findNamed_ok hw hs command.second hall
    have huse := useWith_eq hl hfirst hsecond
    have hpairs : ∀ x y, p.world.Pairs command x y ↔ x = first ∧ partner = some y :=
      fun _ _ => pairs_iff hl hfirst hsecond
    cases partner with
    | none =>
      -- the second word names nothing else
      refine .inr ⟨fun x second i h => ?_, .entityNotFound _, nofun, huse⟩
      cases ((hpairs x second).1 h).2
    | some second =>
      obtain ⟨interaction, hfor⟩ :=
        interactionFor_ok hw hs hverb (hnameable _ rfl) (hnamed second rfl)
      have hpair := huse.trans (usePair_eq hfor)
      cases interaction with
      | none =>
        -- neither of the two objects has an interaction that answers
        refine .inr ⟨fun x y i h hsettles => ?_, .actionFailure _, nofun, hpair⟩
        obtain ⟨rfl, hsame⟩ := (hpairs x y).1 h
        obtain rfl := Option.some.inj hsame
        cases (settles_iff hfor).1 hsettles
      | some i =>
        exact .inl ⟨first, second, i, (hpairs first second).2 ⟨rfl, rfl⟩,
          (settles_iff hfor).2 rfl, hpair⟩

theorem carryOut_useWith (hverb : command.verb = .useWith) :
    carryOut command p = (do useWith command; return none : Act (Option Dialogue)) p := by
  simp only [carryOut, hverb]

/-- In a world that has come from a story, a command to use one object with another runs the actions
of one interaction between the two objects that it names, which are different ones, and nothing
else; or there is no such interaction and nothing happens but that the player is told so. -/
theorem useWith_exact {s : Story} {w : World} (hd : s.DistinctIds) (hload : load s = .ok w)
    {p : Play} (hreached : Develops w p.world) {command : Command}
    (hverb : command.verb = .useWith) :
    ((∃ first second i, p.world.Pairs command first second ∧ second ≠ .inventoryItem first ∧
        p.world.Settles command first second i ∧
        carryOut command p = (do triggerAll i.actions; return none : Act (Option Dialogue))
          (p.say [verdict i.enabled (pairText p.world command first second i)])) ∨
      (∀ first second i, p.world.Pairs command first second →
        ¬p.world.Settles command first second i) ∧
      ∃ item, (∀ text, item ≠ .actionSuccess text) ∧
        carryOut command p = (.ok none, p.say [item])) ∧
    ∀ x ∈ p.world.player.inventory, ∀ y ∈ p.world.player.inventory,
      (∃ i, interactionFor p.world command x (.inventoryItem y) = .ok (some i)) ↔
        ∃ i, interactionFor p.world command y (.inventoryItem x) = .ok (some i) := by
  have hloaded := loaded_of_load hload
  have hbase := hloaded.sound_ofStory hd
  have hw : Intact (ofStory s) p.world := (hloaded.intact hd).keeps hreached.keeps
  have hcarried := hw.placed.carried
  refine ⟨?_, fun x hx y hy => ⟨?_, ?_⟩⟩
  · rw [carryOut_useWith hverb]
    rcases useWith_cases hw hbase hverb with
      ⟨first, second, i, hpairs, hsettles, hrun⟩ | ⟨hnone, item, hitem, hrun⟩
    · exact .inl ⟨first, second, i, hpairs, hpairs.ne, hsettles, bind_congr_at hrun⟩
    · exact .inr ⟨hnone, item, hitem, bind_of_ok hrun⟩
  · exact exists_interactionFor_symm hbase hw hverb (hcarried x hx) (hcarried y hy)
  · exact exists_interactionFor_symm hbase hw hverb (hcarried y hy) (hcarried x hx)

/-- The command to light the oil. -/
def lightOil : Command :=
  ⟨.useWith, true, "use matches with oil", [⟨"o0", "matches"⟩, ⟨"o1", "oil"⟩]⟩

theorem search_lightOil : (ofStory .cellarStory).search [.inventory] lightOil.first
    = .ok (some (.inventoryItem (idOf "matches"))) := by
  decide +kernel

theorem findNamed_lightOil :
    (partners (ofStory .cellarStory) (idOf "matches") >>=
      (ofStory .cellarStory).findNamed lightOil.second)
      = .ok (some (.inventoryItem (idOf "oil"))) := by
  decide +kernel

theorem exists_interactionFor_lightOil : ∃ i, interactionFor (ofStory .cellarStory) lightOil
    (idOf "matches") (.inventoryItem (idOf "oil")) = .ok (some i) := by
  have hrun : (interactionFor (ofStory .cellarStory) lightOil (idOf "matches")
      (.inventoryItem (idOf "oil"))).toOption.any Option.isSome = true := by
    decide +kernel
  obtain ⟨found, hfor, hsome⟩ := exists_ok_of_any hrun
  obtain ⟨i, rfl⟩ := Option.isSome_iff_exists.1 hsome
  exact ⟨i, hfor⟩

/-- The matches have no interaction with the oil, so the one that the oil has with them is run; and
there would also be one if the oil came first. -/
theorem useWith_exact_cellarStory : ∃ w i, load .cellarStory = .ok w ∧
    w.Settles lightOil (idOf "matches") (.inventoryItem (idOf "oil")) i ∧
    carryOut lightOil { world := w }
      = (do triggerAll i.actions; return none : Act (Option Dialogue)) (Play.say { world := w }
        [verdict i.enabled
          (pairText w lightOil (idOf "matches") (.inventoryItem (idOf "oil")) i)]) ∧
    ∃ j, interactionFor w lightOil (idOf "oil") (.inventoryItem (idOf "matches"))
      = .ok (some j) := by
  have hd := Story.distinctIds_cellarStory
  obtain ⟨i, hfor⟩ := exists_interactionFor_lightOil
  have hsettled := fun j => settles_iff (i := j) hfor
  obtain ⟨l, hl⟩ := ((loaded_of_load load_cellarStory).intact hd).placed.here
  have hnamed := findNamed_lightOil
  rw [partners_eq hl] at hnamed
  obtain ⟨hdone, hsymm⟩ := useWith_exact hd load_cellarStory
    (p := { world := ofStory .cellarStory }) .refl (show lightOil.verb = .useWith from rfl)
  refine ⟨_, i, load_cellarStory, (hsettled i).2 rfl, ?_,
    (hsymm _ (by decide +kernel) _ (by decide +kernel)).1 ⟨i, hfor⟩⟩
  rcases hdone with ⟨first, second, j, hpairs, -, hsettles, hrun⟩ | ⟨hnone, -⟩
  · obtain ⟨rfl, hsecond⟩ := (pairs_iff hl search_lightOil hnamed).1 hpairs
    obtain rfl := Option.some.inj hsecond
    obtain rfl := Option.some.inj ((hsettled j).1 hsettles)
    exact hrun
  · exact absurd ((hsettled i).2 rfl)
      (hnone _ _ i ((pairs_iff hl search_lightOil hnamed).2 ⟨rfl, rfl⟩))

end Act

end Adventure
