import Adventure.Proofs.Attempts
import Adventure.Proofs.AuthoredWorlds

/-!
# Effects that happen again

An effect that has just succeeded has nothing left to do: where it happens again right away, it
succeeds and changes nothing (`Edit.settles_apply`). Patches write what is there by then, flags
have their values, and what has left a list is not in it any more.

Only relocations need that the world is well-placed. They take the entity out of the list of its old
location and put it at the end of the new one. An entity that a location lists though it is
elsewhere stays where it is in the list the first time and comes last the second time. In a
well-placed world no location lists an entity that has been taken out, so it comes last right away
(`Edit.seated_relocate`).
-/

namespace Adventure

open World Steps

namespace World

variable {kind : EntityKind}

theorem put_put (w : World) (id : EntityId kind) (e e' : Entity kind) :
    (w.put id e).put id e' = w.put id e' := by
  have harena : ((w.arena kind).insert id e).insert id e' = (w.arena kind).insert id e' := by
    refine Arena.eq_of_get? fun id' => ?_
    simp only [Arena.get?_insert]
    split <;> rfl
  rw [put, put, arena_setArena, harena]
  cases kind <;> rfl

/-- Two worlds have the same entities of a kind. -/
def SameKind (kind : EntityKind) (w w' : World) : Prop :=
  ∀ id : EntityId kind, w'.get? id = w.get? id

instance : Std.Refl (SameKind kind) := ⟨fun _ _ => rfl⟩

instance : IsTrans World (SameKind kind) := ⟨fun _ _ _ h h' id => (h' id).trans (h id)⟩

end World

namespace Edit

variable {α : Type} {kind other : EntityKind} {w w' : World}

/-! ## Edits that have nothing left to do -/

/-- The edit has nothing left to do: it succeeds and changes nothing. -/
def Settled (e : Edit Unit) (w : World) : Prop := e w = (.ok (), w)

/-- Where `P` holds and the edit succeeds, it has nothing left to do. -/
def Settles (P : World → Prop) (e : Edit Unit) : Prop :=
  ∀ w w', P w → e w = (.ok (), w') → Settled e w'

namespace Settled

theorem pure (w : World) : Settled (Pure.pure ()) w := rfl

theorem bind {a b : Edit Unit} (ha : Settled a w) (hb : Settled b w) :
    Settled (a >>= fun _ => b) w :=
  (bind_of_ok ha).trans hb

theorem find {id : EntityId kind} {e : Entity kind} {f : Entity kind → Edit Unit}
    (he : w.get? id = some e) (hf : Settled (f e) w) : Settled (Edit.find id >>= f) w :=
  (find_bind_eq f he).trans hf

theorem change {id : EntityId kind} {e : Entity kind} {g : Entity kind → Entity kind}
    (he : w.get? id = some e) (hg : g e = e) : Settled (Edit.change id g) w := by
  rw [Settled, change_eq he, hg, put_eq_self he]

end Settled

namespace Settles

variable {P Q : World → Prop}

theorem pure : Settles P (Pure.pure ()) := fun _ w' _ _ => .pure w'

theorem weaken {e : Edit Unit} (h : Settles Q e) (hP : ∀ w, P w → Q w) : Settles P e :=
  fun w w' hw => h w w' (hP w hw)

/-- Of two edits the first one must not be undone by the second one. -/
theorem bind {a b : Edit Unit} (first : ∀ w w', P w → a w = (.ok (), w') → Q w')
    (second : Settles Q b) (kept : ∀ w w', Q w → b w = (.ok (), w') → Settled a w') :
    Settles P (a >>= fun _ => b) := by
  intro w w' hw h
  obtain ⟨_, w₁, ha, hb⟩ := ok_of_bind h
  have hq := first w w₁ hw ha
  exact (kept w₁ w' hq hb).bind (second w₁ w' hq hb)

/-- An entity that has been found once is found again. -/
theorem find {e : Edit Unit} (h : Settles P e) (hkept : Moves SameSkeleton e) (id : EntityId kind) :
    Settles P (Edit.find id >>= fun _ => e) := by
  intro w w' hw hrun
  obtain ⟨a, ha, hrun⟩ := exists_of_find_bind hrun
  obtain ⟨a', ha'⟩ := exists_of_sameSkeleton (hkept.of_eq hrun) ⟨a, ha⟩
  exact .find ha' (h w w' hw hrun)

theorem change {id : EntityId kind} {g : Entity kind → Entity kind} (hg : ∀ e, g (g e) = g e) :
    Settles P (Edit.change id g) := by
  intro w w' _ h
  obtain ⟨e, -, rfl⟩ := exists_of_change h
  exact .change (get?_put_self _ _ _) (hg e)

theorem changePlayer {g : Player → Player} (hg : ∀ p, g (g p) = g p) :
    Settles P (Edit.changePlayer g) := by
  intro w w' _ h
  obtain rfl : { w with player := g w.player } = w' := (Prod.mk.inj h).2
  simp [Settled, Edit.changePlayer, hg]

end Settles

theorem sameKind_change (hne : other ≠ kind) (id : EntityId kind) (g : Entity kind → Entity kind) :
    Moves (SameKind other) (change id g) :=
  moves_change fun w _ _ id' => get?_put_of_kind_ne hne w id _ id'

/-! ## What patches write -/

@[simp] theorem overwrite_overwrite (old : String) (new : Option String) :
    overwrite (overwrite old new) new = overwrite old new := by
  cases new <;> rfl

@[simp] theorem or_or_self {α : Type} (new old : Option α) : new.or (new.or old) = new.or old := by
  cases new <;> rfl

@[simp] theorem apply_apply (toggle : Toggle) (flag : Bool) :
    toggle.apply (toggle.apply flag) = toggle.apply flag := by
  cases toggle <;> rfl

theorem patchItem_patchItem (patch : ItemPatch EntityId) (i : Item) :
    patchItem patch (patchItem patch i) = patchItem patch i := by
  simp [patchItem]

theorem patchWay_patchWay (patch : WayPatch) (v : Way) :
    patchWay patch (patchWay patch v) = patchWay patch v := by
  simp [patchWay]

/-! ## Player and inventory -/

theorem sameSkeleton_of_keeps {e : Edit Unit} (h : Moves Keeps e) : Moves SameSkeleton e :=
  fun w => (h w).skeleton

theorem addOnce_eq_self {a : α} [BEq α] [LawfulBEq α] {as : List α} (h : a ∈ as) :
    addOnce a as = as := by
  simp [addOnce, h]

theorem remove_remove [BEq α] (a : α) (as : List α) : remove a (remove a as) = remove a as := by
  simp [remove]

/-- Inventory items that the player has are not received again. -/
theorem settled_addInventoryItems : ∀ {ids : List (EntityId .inventoryItem)} {w : World},
    (∀ id ∈ ids, (∃ i, w.get? id = some i) ∧ id ∈ w.player.inventory) →
      Settled (addInventoryItems ids) w
  | [], w, _ => rfl
  | id :: ids, w, h => by
    obtain ⟨⟨i, hi⟩, hcarried⟩ := h id (by simp)
    rw [Settled, addInventoryItems_cons hi, addOnce_eq_self hcarried]
    exact settled_addInventoryItems fun id' hid' => h id' (List.mem_cons_of_mem _ hid')

theorem settles_addInventoryItems {P : World → Prop} (ids : List (EntityId .inventoryItem)) :
    Settles P (addInventoryItems ids) := by
  intro w w' _ h
  have hskeleton : SameSkeleton w w' :=
    (sameSkeleton_of_keeps (keeps_addInventoryItems ids)).of_eq h
  refine settled_addInventoryItems fun id hid => ⟨?_, ?_⟩
  · exact exists_of_sameSkeleton hskeleton (addInventoryItems_ok_iff.1 ⟨w', h⟩ id hid)
  · exact ((addInventoryItems_spec h).2 id).2 (.inr hid)

theorem settles_removeInventoryItem {P : World → Prop} (id : EntityId .inventoryItem) :
    Settles P (removeInventoryItem id) := by
  refine .find (.changePlayer fun p => by simp only [remove_remove]) (fun w => ?_) id
  simp [SameSkeleton, skeleton, changePlayer]

theorem settles_movePlayer {P : World → Prop} (id : EntityId .way) :
    Settles P (movePlayer id) := by
  intro w w' _ h
  obtain ⟨way, hway, h⟩ := exists_of_find_bind h
  obtain ⟨l, hl, h⟩ := exists_of_find_bind h
  obtain rfl := (Prod.mk.inj h).2
  refine .find (e := way) (by simpa using hway) (.find (e := l) (by simpa using hl) rfl)

/-! ## Places -/

/-- Places and contents are written outside the frame, and nothing is left of what was written
before. -/
structure Lawful (s : Seating kind) : Prop where
  frame_setPlace : ∀ e target, frame kind (s.setPlace e target) = frame kind e
  frame_setContents : ∀ l ids, frame .location (s.setContents l ids) = frame .location l
  setPlace_place : ∀ e, s.setPlace e (s.place e) = e
  setContents_contents : ∀ l, s.setContents l (s.contents l) = l
  setContents_setContents : ∀ l ids ids',
    s.setContents (s.setContents l ids) ids' = s.setContents l ids'

theorem lawful_items : Lawful .items :=
  ⟨fun _ _ => rfl, fun _ _ => rfl, fun _ => rfl, fun _ => rfl, fun _ _ _ => rfl⟩

theorem lawful_persons : Lawful .persons :=
  ⟨fun _ _ => rfl, fun _ _ => rfl, fun _ => rfl, fun _ => rfl, fun _ _ _ => rfl⟩

/-- An entity is in a place, otherwise as it was, and if the place is a location, comes last in
it. -/
structure Seated (s : Seating kind) (id : EntityId kind) (target : Option (EntityId .location))
    (e : Entity kind) (w : World) : Prop where
  found : w.get? id = some (s.setPlace e target)
  last : ∀ at', target = some at' →
    ∃ l ids, w.get? at' = some l ∧ s.contents l = ids ++ [id] ∧ id ∉ ids

variable {s : Seating kind} {id : EntityId kind} {target : Option (EntityId .location)}
  {e : Entity kind}

/-- No location lists an entity that has been taken out, so it comes last where it is put in. -/
theorem seated_relocate (h : Placed s w) (hrun : relocate s id target w = (.ok (), w')) :
    ∃ e, w.get? id = some e ∧ Seated s id target e w' := by
  obtain ⟨e, he, hrun⟩ := exists_of_find_bind hrun
  rw [bind_of_ok (change_eq he)] at hrun
  obtain ⟨w₁, hlift, hlifted, he₁, -⟩ := lift_spec h he (s.setPlace e target)
  rw [bind_of_ok hlift] at hrun
  refine ⟨e, he, ?_⟩
  cases target with
  | none =>
    obtain rfl := (Prod.mk.inj hrun).2
    exact ⟨he₁, nofun⟩
  | some new =>
    obtain ⟨l, hl, rfl⟩ := exists_of_change hrun
    have hunlisted : id ∉ s.contents l := fun hmem => hlifted.unlisted new ⟨l, hl, hmem⟩
    refine ⟨by rw [get?_put_location s, he₁], ?_⟩
    rintro _ ⟨⟩
    refine ⟨_, s.contents l, get?_put_self _ _ _, ?_, hunlisted⟩
    rw [s.contents_setContents]
    simp [addOnce, hunlisted]

/-- The last entity of a location comes last again when it is taken out and put in again. -/
theorem Seated.settled (hs : Lawful s) (h : Seated s id target e w) :
    Settled (relocate s id target) w := by
  have hplace := s.place_setPlace e target
  have hagain := hs.setPlace_place (s.setPlace e target)
  rw [hplace] at hagain
  refine .find h.found (.bind (.change h.found hagain) ?_)
  rw [hplace]
  cases target with
  | none => rfl
  | some at' =>
    obtain ⟨l, ids, hl, hcontents, hid⟩ := h.last at' rfl
    have hout : remove id (s.contents l) = ids := by
      have : ∀ x ∈ ids, x ≠ id := fun x hx heq => hid (heq ▸ hx)
      simpa [remove, hcontents] using this
    have hin : addOnce id ids = s.contents l := by simp [addOnce, hid, hcontents]
    rw [Settled, lift, bind_of_ok (change_eq hl), hout, seat, change_eq (get?_put_self _ _ _),
      s.contents_setContents, hs.setContents_setContents, put_put, hin, hs.setContents_contents,
      put_eq_self hl]

/-- A relocation, if there is one. -/
def relocation? (s : Seating kind) (id : EntityId kind) :
    Option (Relocation EntityId) → Edit Unit
  | none => pure ()
  | some relocation => do
    let target ← destination relocation
    relocate s id target

/-- A relocation writes places and contents only. -/
theorem moves_relocation? {R : World → World → Prop} [Std.Refl R] [IsTrans World R]
    (hplace : ∀ target, Moves R (change id (s.setPlace · target)))
    (hcontents : ∀ (at' : EntityId .location) (ids : Location → List (EntityId kind)),
      Moves R (change at' fun l => s.setContents l (ids l)))
    (relocation : Option (Relocation EntityId)) : Moves R (relocation? s id relocation) := by
  have hlift : ∀ place, Moves R (lift s id place)
    | none => .pure _
    | some _ => hcontents _ _
  have hseat : ∀ place, Moves R (seat s id place)
    | none => .pure _
    | some _ => hcontents _ _
  have hrelocate : ∀ target, Moves R (relocate s id target) := fun target =>
    (moves_find id).bind fun e => (hplace target).bind fun _ => (hlift _).bind fun _ => hseat target
  match relocation with
  | none => exact .pure _
  | some .remove => exact (Moves.pure _).bind hrelocate
  | some (.to location) => exact ((moves_find location).bind fun _ => .pure _).bind hrelocate

theorem sameSkeleton_relocation? (hs : Lawful s) (id : EntityId kind)
    (relocation : Option (Relocation EntityId)) :
    Moves SameSkeleton (relocation? s id relocation) :=
  moves_relocation? (fun _ => moves_change fun _ e he => skeleton_put he (hs.frame_setPlace e _))
    (fun _ _ => moves_change fun _ l hl => skeleton_put hl (hs.frame_setContents l _)) relocation

theorem destination_ok {relocation : Relocation EntityId} {w₁ : World}
    (h : destination relocation w = (.ok target, w₁)) :
    w₁ = w ∧ ∀ w', (∀ at', target = some at' → ∃ l, w'.get? at' = some l) →
      destination relocation w' = (.ok target, w') := by
  match relocation with
  | .remove =>
    obtain ⟨htarget, rfl⟩ := Prod.mk.inj h
    exact ⟨rfl, fun w' _ => by rw [← Except.ok.inj htarget]; rfl⟩
  | .to location =>
    obtain ⟨l, hl, h⟩ := exists_of_find_bind h
    obtain ⟨htarget, rfl⟩ := Prod.mk.inj h
    obtain rfl := Except.ok.inj htarget
    refine ⟨rfl, fun w' hfound => ?_⟩
    obtain ⟨l', hl'⟩ := hfound location rfl
    exact find_bind_eq _ hl'

/-- What comes of a relocation, if there is one, and what comes of it again. -/
theorem relocation_ok (hs : Lawful s) {relocation : Option (Relocation EntityId)} (hw : Placed s w)
    (he : w.get? id = some e) (h : relocation? s id relocation w = (.ok (), w')) :
    (w'.get? id = some e ∨ ∃ target, w'.get? id = some (s.setPlace e target)) ∧
      Settled (relocation? s id relocation) w' := by
  cases relocation with
  | none =>
    obtain rfl := (Prod.mk.inj h).2
    exact ⟨.inl he, rfl⟩
  | some relocation =>
    obtain ⟨target, w₁, hdestination, hrun⟩ := ok_of_bind h
    obtain ⟨rfl, hagain⟩ := destination_ok hdestination
    obtain ⟨e₁, he₁, hseated⟩ := seated_relocate hw hrun
    obtain rfl := Option.some.inj (he.symm.trans he₁)
    have hfound : ∀ at', target = some at' → ∃ l, w'.get? at' = some l := fun at' hat => by
      obtain ⟨l, -, hl, -⟩ := hseated.last at' hat
      exact ⟨l, hl⟩
    exact ⟨.inr ⟨target, hseated.found⟩,
      (bind_of_ok (hagain w' hfound)).trans (hseated.settled hs)⟩

theorem settles_removeItem (id : EntityId .item) : Settles (Placed .items) (removeItem id) := by
  intro w w' hw h
  rw [removeItem_eq] at h ⊢
  obtain ⟨item, -, hseated⟩ := seated_relocate hw h
  exact hseated.settled lawful_items

theorem settles_takeItem (id : EntityId .item) (leave : Bool)
    (grants : List (EntityId .inventoryItem)) :
    Settles (Placed .items) (takeItem id leave grants) := by
  have hgrants := sameSkeleton_of_keeps (keeps_addInventoryItems grants)
  cases leave with
  | false => exact .find (settles_addInventoryItems grants) hgrants id
  | true =>
    have hremove := sameSkeleton_of_keeps (keeps_removeItem id)
    refine .find (.bind (Q := fun w => ∃ item, Seated .items id none item w) ?_
      (settles_addInventoryItems grants) ?_) (hremove.bind fun _ => hgrants) id
    · intro w w' hw h
      obtain ⟨item, -, hseated⟩ := seated_relocate hw (removeItem_eq id ▸ h)
      exact ⟨item, hseated⟩
    · rintro w w' ⟨item, hseated⟩ h
      have hout : Seated .items id none item w' :=
        ⟨((addInventoryItems_spec h).1 id).trans hseated.found, nofun⟩
      rw [removeItem_eq]
      exact hout.settled lawful_items

end Edit

/-! ## Flags of actions -/

/-- All that an action reaches exists and has a flag already. -/
structure World.AllFlagged (w : World) (value : Bool) (id : EntityId .action) : Prop where
  cascading : w.Cascading id
  flags : ∀ a, w.Reaches id a → ∀ action, w.get? a = some action → Action.enabled action = value

/-- The flag and the text of an action are what a patch makes of them. -/
structure World.OwnPatched (w : World) (id : EntityId .action) (enabling : Toggle)
    (forbidden : Option String) : Prop where
  flags : ∀ value, enabling.target? = some value → w.AllFlagged value id
  text : ∃ action, w.get? id = some action ∧
    forbidden.or (Action.forbiddenText action) = Action.forbiddenText action

/-- The texts of actions may be others as long as the flags are the same. -/
theorem World.AllFlagged.congr {w w' : World} {value : Bool} {id : EntityId .action}
    (h : w.AllFlagged value id) (hskeleton : SameSkeleton w w')
    (hflags : ∀ a : EntityId .action,
      (w'.get? a).map Action.enabled = (w.get? a).map Action.enabled) :
    w'.AllFlagged value id where
  cascading := h.cascading.of_sameSkeleton hskeleton
  flags a ha action' haction' := by
    rw [Reaches, contains_of_sameSkeleton hskeleton] at ha
    obtain ⟨action, haction⟩ := h.cascading.found a ha
    have heq := hflags a
    rw [haction, haction'] at heq
    exact (Option.some.inj heq).trans (h.flags a ha action haction)

theorem World.OwnPatched.congr {w w' : World} {id : EntityId .action} {enabling : Toggle}
    {forbidden : Option String} (h : w.OwnPatched id enabling forbidden)
    (hskeleton : SameSkeleton w w') (hactions : SameKind .action w w') :
    w'.OwnPatched id enabling forbidden where
  flags value hvalue := (h.flags value hvalue).congr hskeleton fun a => by rw [hactions a]
  text := by
    rw [hactions id]
    exact h.text

namespace Edit

variable {kind : EntityKind} {w w' : World}

theorem allFlagged_setEnabled {id : EntityId .action} {value : Bool}
    (h : setEnabled id value w = (.ok (), w')) : w'.AllFlagged value id := by
  obtain ⟨-, hok, hflagged⟩ := setEnabled_exact w id value
  have hc : w.Cascading id := hok.1 ⟨w', h⟩
  obtain ⟨w₁, heq, hskeleton, hflags⟩ := setEnabled_ok value hc (refl_of SameSkeleton w)
  obtain rfl : w₁ = w' := (Prod.mk.inj (heq.symm.trans h)).2
  refine ⟨hc.of_sameSkeleton hskeleton, fun a ha action haction => ?_⟩
  rw [Reaches, contains_of_sameSkeleton hskeleton] at ha
  rw [hflags.flags a ha] at haction
  obtain ⟨action₀, -, rfl⟩ := Option.map_eq_some_iff.1 haction
  rfl

theorem settles_setEnabled {P : World → Prop} (id : EntityId .action) (value : Bool) :
    Settles P (setEnabled id value) := by
  intro w w' _ h
  have hflagged := allFlagged_setEnabled h
  exact setEnabled_eq_self hflagged.cascading hflagged.flags

theorem settles_changeAction {P : World → Prop} (id : EntityId .action) (enabling : Toggle) :
    Settles P (changeAction id enabling) := by
  unfold changeAction
  cases enabling.target? with
  | none => exact .find .pure (.pure ()) id
  | some value =>
    have hkept := sameSkeleton_of_keeps (keeps_setEnabled id value)
    exact .find (settles_setEnabled id value) hkept id

theorem ownPatched_changeOwnAction {id : EntityId .action} {enabling : Toggle}
    {forbidden : Option String} (h : changeOwnAction id enabling forbidden w = (.ok (), w')) :
    w'.OwnPatched id enabling forbidden := by
  have htext : ∀ {w₁}, change id (fun a => { a with forbiddenText := forbidden.or a.forbiddenText })
      w₁ = (.ok (), w') → SameSkeleton w₁ w' ∧
        (∀ a : EntityId .action, (w'.get? a).map Action.enabled = (w₁.get? a).map Action.enabled) ∧
        ∃ action, w'.get? id = some action ∧
          forbidden.or (Action.forbiddenText action) = Action.forbiddenText action := by
    intro w₁ h
    obtain ⟨action, haction, rfl⟩ := exists_of_change h
    refine ⟨skeleton_put haction rfl, fun a => ?_, _, get?_put_self _ _ _, by simp⟩
    rw [get?_put]
    split
    · rename_i heq
      rw [heq, haction]
      rfl
    · rfl
  unfold changeOwnAction at h
  cases hvalue : enabling.target? with
  | none =>
    rw [hvalue] at h
    exact ⟨by simp [hvalue], (htext h).2.2⟩
  | some value =>
    rw [hvalue] at h
    obtain ⟨_, w₁, hset, h⟩ := ok_of_bind h
    obtain ⟨hskeleton, hflags, hforbidden⟩ := htext h
    refine ⟨fun value' hvalue' => ?_, hforbidden⟩
    obtain rfl := Option.some.inj (hvalue.symm.trans hvalue')
    exact (allFlagged_setEnabled hset).congr hskeleton hflags

theorem settled_changeOwnAction {id : EntityId .action} {enabling : Toggle}
    {forbidden : Option String} (h : w.OwnPatched id enabling forbidden) :
    Settled (changeOwnAction id enabling forbidden) w := by
  obtain ⟨action, haction, htext⟩ := h.text
  have hchange : Settled
      (change id fun a => { a with forbiddenText := forbidden.or a.forbiddenText }) w :=
    .change haction (by rw [htext])
  unfold changeOwnAction
  cases hvalue : enabling.target? with
  | none => exact hchange
  | some value =>
    have hflagged := h.flags value hvalue
    exact .bind (setEnabled_eq_self hflagged.cascading hflagged.flags) hchange

theorem sameKind_changeOwnAction (hne : kind ≠ .action) (id : EntityId .action)
    (enabling : Toggle) (forbidden : Option String) :
    Moves (SameKind kind) (changeOwnAction id enabling forbidden) :=
  moves_changeOwnAction (fun _ id => sameKind_change hne id _) (fun id => sameKind_change hne id _)
    id enabling

/-- An object and the action that belongs to it are what a patch makes of them. -/
def OwnerPatched (id : EntityId kind) (g : Entity kind → Entity kind)
    (own : Entity kind → EntityId .action) (enabling : Toggle) (forbidden : Option String)
    (w : World) : Prop :=
  ∃ e, w.get? id = some e ∧ g e = e ∧ w.OwnPatched (own e) enabling forbidden

variable {id : EntityId kind} {g : Entity kind → Entity kind} {own : Entity kind → EntityId .action}
  {enabling : Toggle} {forbidden : Option String}

theorem ownerPatched_changeOwner (hne : kind ≠ .action) (hg : ∀ e, g (g e) = g e)
    (hown : ∀ e, own (g e) = own e)
    (h : changeOwner id g own enabling forbidden w = (.ok (), w')) :
    OwnerPatched id g own enabling forbidden w' := by
  obtain ⟨e, he, h⟩ := exists_of_find_bind h
  rw [bind_of_ok (change_eq he)] at h
  have hsame := sameKind_changeOwnAction hne (own e) enabling forbidden (w.put id (g e)) id
  rw [h, get?_put_self] at hsame
  exact ⟨g e, hsame, hg e, (hown e).symm ▸ ownPatched_changeOwnAction h⟩

theorem OwnerPatched.settled (h : OwnerPatched id g own enabling forbidden w) :
    Settled (changeOwner id g own enabling forbidden) w := by
  obtain ⟨e, he, hg, hown⟩ := h
  exact .find he (.bind (.change he hg) (settled_changeOwnAction hown))

/-! ## Patches -/

theorem settles_changeWay {P : World → Prop} (id : EntityId .way) (patch : WayPatch) :
    Settles P (changeWay id patch) := by
  intro w w' _ h
  rw [changeWay_eq] at h ⊢
  have hpatch : ∀ v : Entity .way, patchWay patch (patchWay patch v) = patchWay patch v :=
    patchWay_patchWay patch
  exact (ownerPatched_changeOwner (by decide) hpatch (fun _ => rfl) h).settled

theorem changeItem_eq_relocation? (id : EntityId .item) (patch : ItemPatch EntityId) :
    changeItem id patch = (do
      changeOwner id (patchItem patch) Item.takeAction patch.taking patch.takeForbiddenText
      relocation? .items id patch.relocation) := by
  rw [changeItem_eq]
  cases patch.relocation with
  | none => rfl
  | some relocation => simp only [relocateItem_eq, relocation?]

/-- A patched item is patched wherever it is. -/
theorem OwnerPatched.relocated {id : EntityId .item} {patch : ItemPatch EntityId}
    (hpatched : OwnerPatched id (patchItem patch) Item.takeAction enabling forbidden w)
    (hw : Placed .items w) (h : relocation? .items id patch.relocation w = (.ok (), w')) :
    OwnerPatched id (patchItem patch) Item.takeAction enabling forbidden w' := by
  obtain ⟨i, hi, hpatch, hown⟩ := hpatched
  have hskeleton : SameSkeleton w w' := (sameSkeleton_relocation? lawful_items id _).of_eq h
  have hactions : Moves (SameKind .action) (relocation? .items id patch.relocation) :=
    moves_relocation? (fun _ => sameKind_change (by decide) id _)
      (fun at' _ => sameKind_change (by decide) at' _) _
  replace hown := hown.congr hskeleton (hactions.of_eq h)
  rcases (relocation_ok lawful_items hw hi h).1 with hi' | ⟨target, hi'⟩
  · exact ⟨i, hi', hpatch, hown⟩
  · exact ⟨_, hi', congrArg (Seating.items.setPlace · target) hpatch, hown⟩

/-- The item and its action are patched first, and relocating the item writes nothing of that. -/
theorem settles_changeItem (id : EntityId .item) (patch : ItemPatch EntityId) :
    Settles (Placed .items) (changeItem id patch) := by
  rw [changeItem_eq_relocation?]
  refine .bind (Q := fun w => Placed .items w ∧
    OwnerPatched id (patchItem patch) Item.takeAction patch.taking patch.takeForbiddenText w)
    (fun w w' hw h => ⟨?_, ?_⟩) ?_ ?_
  · have halike : Moves (Alike Seating.items.shown) (changeOwner id (patchItem patch)
        Item.takeAction patch.taking patch.takeForbiddenText) := by
      refine (moves_find id).bind fun i => Moves.bind ?_ fun _ => ?_
      · exact alike_change fun _ => rfl
      · exact moves_changeOwnAction (fun _ _ => alike_change fun _ => rfl)
          (fun _ => alike_change fun _ => rfl) _ _
    exact hw.of_alike (halike.of_eq h)
  · have hpatch : ∀ i : Entity .item, patchItem patch (patchItem patch i) = patchItem patch i :=
      patchItem_patchItem patch
    exact ownerPatched_changeOwner (by decide) hpatch (fun _ => rfl) h
  · rintro w w' ⟨hw, i, hi, -⟩ h
    exact (relocation_ok lawful_items hw hi h).2
  · rintro w w' ⟨hw, hpatched⟩ h
    exact (hpatched.relocated hw h).settled

/-- The person after a patch, apart from the place. -/
def patchPerson (patch : PersonPatch EntityId) (p : Person) : Person :=
  { p with
    name := overwrite p.name patch.name
    description := overwrite p.description patch.description
    talk := { p.talk with
      enabled := patch.talking.apply p.talk.enabled
      forbiddenText := patch.talkForbiddenText.or p.talk.forbiddenText
      conversation := patch.conversation.or p.talk.conversation }
    inspection := { p.inspection with text := patch.inspectionText.or p.inspection.text } }

/-- The part of a patch that follows once the conversation has been found. -/
def rewritePerson (id : EntityId .person) (patch : PersonPatch EntityId) : Edit Unit := do
  change id (patchPerson patch)
  relocation? .persons id patch.relocation

theorem changePerson_eq (id : EntityId .person) (patch : PersonPatch EntityId) :
    changePerson id patch =
      match patch.conversation with
      | none => rewritePerson id patch
      | some conversation => find conversation >>= fun _ => rewritePerson id patch := by
  obtain ⟨_, _, _, _, conversation, relocation, _⟩ := patch
  unfold changePerson
  simp only [relocatePerson_eq]
  cases conversation <;> cases relocation <;> rfl

theorem settles_rewritePerson (id : EntityId .person) (patch : PersonPatch EntityId) :
    Settles (Placed .persons) (rewritePerson id patch) := by
  refine .bind (Q := fun w => Placed .persons w ∧
    ∃ p, w.get? id = some p ∧ patchPerson patch p = p) ?_ ?_ ?_
  · intro w w' hw h
    obtain ⟨p, hp, rfl⟩ := exists_of_change h
    exact ⟨hw.of_alike (.put hp rfl), _, get?_put_self _ _ _, by simp [patchPerson]⟩
  · rintro w w' ⟨hw, p, hp, -⟩ h
    exact (relocation_ok lawful_persons hw hp h).2
  · rintro w w' ⟨hw, p, hp, hpatch⟩ h
    rcases (relocation_ok lawful_persons hw hp h).1 with hp' | ⟨target, hp'⟩
    · exact .change hp' hpatch
    · exact .change hp' (congrArg (Seating.persons.setPlace · target) hpatch)

theorem sameSkeleton_rewritePerson (id : EntityId .person) (patch : PersonPatch EntityId) :
    Moves SameSkeleton (rewritePerson id patch) :=
  have hpatch : Moves SameSkeleton (change id (patchPerson patch)) :=
    moves_change fun _ _ he => skeleton_put he rfl
  hpatch.bind fun _ => sameSkeleton_relocation? lawful_persons id _

theorem settles_changePerson (id : EntityId .person) (patch : PersonPatch EntityId) :
    Settles (Placed .persons) (changePerson id patch) := by
  rw [changePerson_eq]
  cases patch.conversation with
  | none => exact settles_rewritePerson id patch
  | some conversation =>
    exact .find (settles_rewritePerson id patch) (sameSkeleton_rewritePerson id patch) conversation

theorem settles_changeConversation {P : World → Prop} (id : EntityId .conversation)
    (patch : ConversationPatch EntityId) : Settles P (changeConversation id patch) := by
  intro w w' _ h
  obtain ⟨_, w₁, hchange, h⟩ := ok_of_bind h
  obtain ⟨c, hc, rfl⟩ := exists_of_change hchange
  unfold changeConversation
  cases hlayer : patch.startLayer with
  | none =>
    simp only [hlayer] at h
    obtain rfl := (Prod.mk.inj h).2
    exact .bind (.change (get?_put_self _ _ _) (by simp)) (.pure _)
  | some layer =>
    simp only [hlayer] at h
    obtain ⟨c₁, hc₁, h⟩ := exists_of_find_bind h
    split at h
    · rename_i hmem
      obtain ⟨c₂, hc₂, rfl⟩ := exists_of_change h
      obtain rfl := Option.some.inj ((get?_put_self _ _ _).symm.trans hc₁)
      obtain rfl := Option.some.inj ((get?_put_self _ _ _).symm.trans hc₂)
      refine .bind (.change (get?_put_self _ _ _) (by simp)) (.find (get?_put_self _ _ _) ?_)
      simp only [if_pos hmem]
      exact .change (get?_put_self _ _ _) rfl
    · cases h

theorem settles_changeChoice {P : World → Prop} (id : EntityId .choice)
    (patch : ChoicePatch EntityId) : Settles P (changeChoice id patch) := by
  unfold changeChoice
  cases htarget : patch.target with
  | none => exact .change fun c => by simp
  | some target =>
    intro w w' _ h
    obtain ⟨c, hc, h⟩ := exists_of_find_bind h
    obtain ⟨l, hl, h⟩ := exists_of_find_bind h
    split at h
    · cases h
    · rename_i hown
      obtain ⟨c₁, hc₁, rfl⟩ := exists_of_change h
      obtain rfl := Option.some.inj (hc.symm.trans hc₁)
      have hl' : ∀ c', (w.put id c').get? target = some l := fun c' =>
        (get?_put_of_kind_ne (by decide) w id c' target).trans hl
      refine .find (get?_put_self _ _ _) (.find (hl' _) ?_)
      simp only [if_neg hown]
      exact .change (get?_put_self _ _ _) (by simp)

theorem changeFirst_changeFirst {α : Type} {p : α → Bool} {f : α → α} (hp : ∀ a, p (f a) = p a)
    (hf : ∀ a, f (f a) = f a) :
    ∀ as : List α, changeFirst p f (changeFirst p f as) = changeFirst p f as
  | [] => rfl
  | a :: as => by
    by_cases h : p a = true
    · simp [changeFirst, h, hp, hf]
    · simp [changeFirst, h, changeFirst_changeFirst hp hf as]

theorem patchInteraction_patchInteraction (patch : InteractionPatch)
    (x : Interaction EntityId ObjectRef) :
    patchInteraction patch (patchInteraction patch x) = patchInteraction patch x := by
  simp [patchInteraction]

/-- Whether an inventory item interacts with a partner depends on the partners alone. -/
theorem isNone_interactionWith {i i' : InventoryItem} (partner : ObjectRef)
    (h : i'.interactions.map (·.partner) = i.interactions.map (·.partner)) :
    (i'.interactionWith partner).isNone = (i.interactionWith partner).isNone := by
  have hpartners : ∀ i : InventoryItem, (i.interactionWith partner).isNone
      = ((i.interactions.map (·.partner)).find? fun x => decide (x = partner)).isNone := by
    intro i
    rw [List.find?_map, Option.isNone_map]
    rfl
  rw [hpartners, hpartners, h]

theorem settles_changeInteraction {P : World → Prop} (id : EntityId .inventoryItem)
    (partner : ObjectRef) (patch : InteractionPatch) :
    Settles P (changeInteraction id partner patch) := by
  intro w w' _ h
  obtain ⟨i, hi, h⟩ := exists_of_find_bind h
  split at h
  · cases h
  · rename_i hsome
    obtain ⟨i₁, hi₁, rfl⟩ := exists_of_change h
    obtain rfl := Option.some.inj (hi.symm.trans hi₁)
    refine .find (get?_put_self _ _ _) ?_
    rw [if_neg]
    · refine .change (get?_put_self _ _ _) ?_
      simp only [changeFirst_changeFirst (p := fun x => decide (x.partner = partner))
        (f := patchInteraction patch) (fun _ => rfl) (patchInteraction_patchInteraction patch)]
    · rwa [isNone_interactionWith (i := i) partner
        (map_changeFirst (g := patchInteraction patch) (fun _ => rfl) _)]

/-! ## Effects -/

/-- Items and persons are in their places. -/
def ThingsPlaced (w : World) : Prop := Placed .items w ∧ Placed .persons w

/-- An effect that has succeeded has nothing left to do. -/
theorem settles_apply (effect : Effect EntityId ObjectRef) :
    Settles ThingsPlaced (Edit.apply effect) := by
  cases effect with
  | addInventoryItems ids => exact settles_addInventoryItems ids
  | removeInventoryItem id => exact settles_removeInventoryItem id
  | removeItem id => exact (settles_removeItem id).weaken fun _ => And.left
  | move id => exact settles_movePlayer id
  | take id leave grants => exact (settles_takeItem id leave grants).weaken fun _ => And.left
  | sequence _ | endGame _ => exact .pure
  | changeAction id enabling => exact settles_changeAction id enabling
  | changeItem id patch => exact (settles_changeItem id patch).weaken fun _ => And.left
  | changeInventoryItem id patch => exact .change fun _ => by simp
  | changePerson id patch => exact (settles_changePerson id patch).weaken fun _ => And.right
  | changeLocation id patch => exact .change fun _ => by simp
  | changeWay id patch => exact settles_changeWay id patch
  | changeConversation id patch => exact settles_changeConversation id patch
  | changeChoice id patch => exact settles_changeChoice id patch
  | changeInteraction id partner patch => exact settles_changeInteraction id partner patch

end Edit

/-- Where items and persons are in their places, an effect that has just succeeded succeeds again
and leaves the world as it is: every list in its order and every flag. All that comes of it is that
closing words are said again. -/
theorem Act.perform_again (effect : Effect EntityId ObjectRef) (p p' : Play)
    (hitems : Placed .items p.world) (hpersons : Placed .persons p.world)
    (h : perform effect p = (.ok (), p')) :
    perform effect p' =
      (.ok (), p'.say (closingWords p'.world.game effect)) := by
  have happly : Edit.apply effect p.world = (.ok (), p'.world) := by
    rcases perform_eq effect p with ⟨p₁, hp₁, happly, -⟩ | ⟨failure, -, hp₁⟩
    · obtain rfl := (Prod.mk.inj (hp₁.symm.trans h)).2
      exact happly
    · cases hp₁.symm.trans h
  have hsettled : Edit.apply effect p'.world = (.ok (), p'.world) :=
    Edit.settles_apply effect p.world p'.world ⟨hitems, hpersons⟩ happly
  have hstatus : p'.status.after effect = p'.status := by
    rw [perform_of_ok (congrArg Prod.fst happly)] at h
    obtain rfl := (Prod.mk.inj h).2
    cases effect <;> rfl
  rw [perform_of_ok (congrArg Prod.fst hsettled), hsettled, hstatus]
  rfl

/-- The lamp is put at the end of the hall once. -/
theorem Act.perform_again_hallStory :
    let p : Play := { world := ofStory .hallStory }
    let effect : Effect EntityId ObjectRef :=
      .changeItem (idOf "lamp") { taking := .enable, relocation := some (.to (idOf "hall")) }
    Placed .items p.world ∧ Placed .persons p.world ∧
      perform effect p = (.ok (), (perform effect p).2) ∧
      (perform effect (perform effect p).2).2.world = (perform effect p).2.world := by
  intro p effect
  have hsound : Story.hallStory.Sound := Story.sound_of_faults_eq_nil (by decide +kernel)
  have hplaced : WellPlaced (ofStory .hallStory) :=
    wellPlaced_ofStory hsound Story.distinctIds_hallStory
  have hok : (Edit.apply effect p.world).1 = .ok () := by
    have : (Edit.apply effect p.world).1.isOk = true := by decide +kernel
    cases h : (Edit.apply effect p.world).1 with
    | ok _ => rfl
    | error failure => rw [h] at this; cases this
  have hperform : perform effect p = (.ok (), (perform effect p).2) := by rw [perform_of_ok hok]
  refine ⟨hplaced.items, hplaced.persons, hperform, ?_⟩
  rw [perform_again effect p _ hplaced.items hplaced.persons hperform]
  rfl

end Adventure
