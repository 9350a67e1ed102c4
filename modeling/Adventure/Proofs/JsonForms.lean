import Adventure.Json.Schema
import Adventure.Proofs.Arenas
import Adventure.Proofs.RonForms
import Adventure.Story.Schema
import Mathlib.Data.List.Forall2
import Mathlib.Data.List.Perm.Basic

/-!
# Values are read from their JSON forms

A value has one JSON form in which nothing is left out and others that say less or more: a field
that has its default may be missing from a record and members that are no fields may be there, at
any depth (`Schema.WrittenAs`). From each of them the same value is read
(`Schema.ofJson?_written`), provided that the layout is clear: the fields of a record have different
names and so have the cases of a choice, and only what is absent is written as nothing. The layout
of stories is clear, so a story is read from whatever an author may write for it
(`Story.ofJson?_form`).

The forms follow the layout and so do the inductions. What carries the one on fields is that each
name is found among all members as among those that are kept.
-/

namespace Adventure

/-! ## Forms -/

/-- The members whose names are among the given ones. -/
def Json.known (names : List String) (members : List (String × Json)) : List (String × Json) :=
  members.filter fun m => names.contains m.1

mutual

/-- The JSON forms of a value: a field that has its default may be left out of a record, and a
record may have other members besides its fields, in any order. -/
def Schema.WrittenAs {α : Type} : Schema α → α → Json → Prop
  | .flag, b, json => json = .bool b
  | .text, s, json => json = .string s
  | .uuid, id, json => json = .string id.toString
  | .optional _, none, json => json = .null
  | .optional schema, some a, json => schema.WrittenAs a json
  | .list schema, as, json =>
    ∃ items, json = .array items ∧ List.Forall₂ (fun a item => schema.WrittenAs a item) as items
  | .table schema, entries, json =>
    ∃ members, json = .object members ∧ List.Forall₂
      (fun e m => m.1 = e.1.toString ∧ schema.WrittenAs e.2 m.2) entries members
  | .record _ fields, a, json =>
    ∃ members kept, json = .object members ∧ fields.KeptAs a kept ∧
      (Json.known fields.names members).Perm kept
  | .choice cases, a, json => cases.WrittenAs a json
  | .via schema _ parts _, a, json => schema.WrittenAs (parts a) json

/-- The members for the fields of a record that have not been left out. -/
def Fields.KeptAs {α : Type} : Fields α → α → List (String × Json) → Prop
  | .done, _, members => members = []
  | .field name schema default rest, (a, b), members =>
    (∃ json others, members = (name, json) :: others ∧ schema.WrittenAs a json ∧
      rest.KeptAs b others) ∨
    (default = some a ∧ rest.KeptAs b members)

/-- The JSON forms of a choice. -/
def Cases.WrittenAs {α : Type} : Cases α → α → Json → Prop
  | .done, _, _ => False
  | .bare name _, .inl _, json => json = .string name
  | .bare _ rest, .inr b, json => rest.WrittenAs b json
  | .holding name schema _, .inl a, json =>
    ∃ data, json = .object [(name, data)] ∧ schema.WrittenAs a data
  | .holding _ _ rest, .inr b, json => rest.WrittenAs b json
  | .record name fields _, .inl a, json =>
    ∃ members kept, json = .object [(name, .object members)] ∧ fields.KeptAs a kept ∧
      (Json.known fields.names members).Perm kept
  | .record _ _ rest, .inr b, json => rest.WrittenAs b json

end

section

variable {α β : Type} {name : String} {schema : Schema α} {default : Option α} {rest : Fields β}
  {a : α} {b : β} {members : List (String × Json)}

theorem Fields.KeptAs.keep {json : Json} (h : schema.WrittenAs a json)
    (hrest : rest.KeptAs b members) :
    (Fields.field name schema default rest).KeptAs (a, b) ((name, json) :: members) :=
  .inl ⟨json, members, rfl, h, hrest⟩

theorem Fields.KeptAs.leave (hrest : rest.KeptAs b members) :
    (Fields.field name schema (some a) rest).KeptAs (a, b) members :=
  .inr ⟨rfl, hrest⟩

end

/-! ## Schemas whose forms can be told apart -/

/-- Whether a value may be written as nothing. -/
def Schema.nullable {α : Type} : Schema α → Bool
  | .optional _ => true
  | .via schema _ _ _ => schema.nullable
  | _ => false

mutual

/-- Whether the names in the layout of a type differ where they have to and what is there is never
written as nothing. -/
def Schema.clear {α : Type} : Schema α → Bool
  | .flag | .text | .uuid => true
  | .optional schema => !schema.nullable && schema.clear
  | .list schema => schema.clear
  | .table schema => schema.clear
  | .record _ fields => fields.clear
  | .choice cases => cases.clear
  | .via schema _ _ _ => schema.clear

def Fields.clear {α : Type} : Fields α → Bool
  | .done => true
  | .field name schema _ rest => !rest.names.contains name && schema.clear && rest.clear

def Cases.clear {α : Type} : Cases α → Bool
  | .done => true
  | .bare name rest => !rest.names.contains name && rest.clear
  | .holding name schema rest => !rest.names.contains name && schema.clear && rest.clear
  | .record name fields rest => !rest.names.contains name && fields.clear && rest.clear

end

/-! ## The full form -/

theorem Fields.names_toMembers {α : Type} : ∀ (fields : Fields α) (a : α),
    (fields.toMembers a).map (·.1) = fields.names
  | .done, () => rfl
  | .field name _ _ rest, (_, b) => congrArg (name :: ·) (rest.names_toMembers b)

theorem Fields.known_toMembers {α : Type} (fields : Fields α) (a : α) :
    Json.known fields.names (fields.toMembers a) = fields.toMembers a := by
  refine List.filter_eq_self.2 fun m hm => ?_
  rw [← fields.names_toMembers a]
  simpa using ⟨m.2, hm⟩

mutual

/-- The form in which nothing is left out is one of the forms. -/
theorem Schema.writtenAs_toJson {α : Type} : ∀ (schema : Schema α) (a : α),
    schema.WrittenAs a (schema.toJson a)
  | .flag, _ => rfl
  | .text, _ => rfl
  | .uuid, _ => rfl
  | .optional _, none => rfl
  | .optional schema, some a => schema.writtenAs_toJson a
  | .list schema, as =>
    ⟨_, rfl, List.forall₂_map_right_iff.2 (List.forall₂_same.2 fun a _ =>
      schema.writtenAs_toJson a)⟩
  | .table schema, entries =>
    ⟨_, rfl, List.forall₂_map_right_iff.2 (List.forall₂_same.2 fun e _ =>
      ⟨rfl, schema.writtenAs_toJson e.2⟩)⟩
  | .record _ fields, a =>
    ⟨_, _, rfl, fields.keptAs_toMembers a, .of_eq (fields.known_toMembers a)⟩
  | .choice cases, a => cases.writtenAs_toJson a
  | .via schema _ parts _, a => schema.writtenAs_toJson (parts a)

theorem Fields.keptAs_toMembers {α : Type} : ∀ (fields : Fields α) (a : α),
    fields.KeptAs a (fields.toMembers a)
  | .done, () => rfl
  | .field _ schema _ rest, (a, b) =>
    .keep (schema.writtenAs_toJson a) (rest.keptAs_toMembers b)

theorem Cases.writtenAs_toJson {α : Type} : ∀ (cases : Cases α) (a : α),
    cases.WrittenAs a (cases.toJson a)
  | .done, e => nomatch e
  | .bare _ _, .inl () => rfl
  | .bare _ rest, .inr b => rest.writtenAs_toJson b
  | .holding _ schema _, .inl a => ⟨_, rfl, schema.writtenAs_toJson a⟩
  | .holding _ _ rest, .inr b => rest.writtenAs_toJson b
  | .record _ fields _, .inl a =>
    ⟨_, _, rfl, fields.keptAs_toMembers a, .of_eq (fields.known_toMembers a)⟩
  | .record _ _ rest, .inr b => rest.writtenAs_toJson b

end

/-! ## Members -/

namespace Json

theorem lookup_known {names : List String} {name : String} (h : name ∈ names)
    (members : List (String × Json)) :
    (known names members).lookup name = members.lookup name := by
  induction members with
  | nil => rfl
  | cons m members ih =>
    obtain ⟨other, json⟩ := m
    by_cases hname : name = other
    · subst hname
      simp [known, h]
    · have hne : (name == other) = false := beq_eq_false_iff_ne.2 hname
      rw [List.lookup_cons, hne, ← ih]
      unfold known
      rw [List.filter_cons]
      split
      · rw [List.lookup_cons, hne]
      · rfl

/-- Where names occur once, the order of members does not matter for what is found. -/
theorem lookup_of_perm {members others : List (String × Json)} (h : members.Perm others)
    (hnd : (others.map (·.1)).Nodup) (name : String) :
    members.lookup name = others.lookup name := by
  refine Option.ext fun json => ?_
  rw [← Arena.mem_iff_lookup hnd, ← Arena.mem_iff_lookup ((h.map _).nodup_iff.2 hnd), h.mem_iff]

end Json

/-- The fields that are kept stand in their order. -/
theorem Fields.sublist_of_keptAs {α : Type} : ∀ (fields : Fields α) {a : α}
    {kept : List (String × Json)}, fields.KeptAs a kept →
    (kept.map (·.1)).Sublist fields.names
  | .done, _, _, h => by
    obtain rfl := h
    exact .slnil
  | .field _ _ _ rest, (_, _), _, h => by
    rcases h with ⟨json, others, rfl, -, h⟩ | ⟨-, h⟩
    · exact (rest.sublist_of_keptAs h).cons_cons _
    · exact (rest.sublist_of_keptAs h).cons _

theorem Fields.nodup_names {α : Type} : ∀ (fields : Fields α), fields.clear = true →
    fields.names.Nodup
  | .done, _ => .nil
  | .field name _ _ rest, h => by
    simp only [Fields.clear, Bool.and_eq_true, Bool.not_eq_true', List.contains_eq_mem,
      decide_eq_false_iff_not] at h
    exact List.nodup_cons.2 ⟨h.1.1, rest.nodup_names h.2⟩

/-- The fields that are kept are found among all members. -/
theorem Fields.lookup_of_keptAs {α : Type} {fields : Fields α} (hclear : fields.clear = true)
    {a : α} {members kept : List (String × Json)} (hkept : fields.KeptAs a kept)
    (hperm : (Json.known fields.names members).Perm kept) :
    ∀ name ∈ fields.names, members.lookup name = kept.lookup name := by
  intro name hname
  have hnd := (fields.sublist_of_keptAs hkept).nodup (fields.nodup_names hclear)
  rw [← Json.lookup_of_perm hperm hnd, Json.lookup_known hname]

/-! ## Reading -/

theorem mapM_of_forall₂ {α β : Type} {R : α → β → Prop} {read? : β → Option α}
    (h : ∀ a b, R a b → read? b = some a) {as : List α} {bs : List β}
    (hall : List.Forall₂ R as bs) : bs.mapM read? = some as := by
  induction hall with
  | nil => rfl
  | cons hR _ ih => simp [h _ _ hR, ih]

/-- A choice is written with the name of one of its cases. -/
theorem Cases.tagged?_of_writtenAs {α : Type} : ∀ (cases : Cases α) {a : α} {json : Json},
    cases.WrittenAs a json → ∃ tag ∈ cases.names, ∃ data, json.tagged? = some (tag, data)
  | .bare name _, .inl (), _, h => by
    obtain rfl := h
    exact ⟨name, by simp [names], none, rfl⟩
  | .holding name _ _, .inl _, _, h => by
    obtain ⟨data, rfl, -⟩ := h
    exact ⟨name, by simp [names], some data, rfl⟩
  | .record name _ _, .inl _, _, h => by
    obtain ⟨members, -, rfl, -⟩ := h
    exact ⟨name, by simp [names], some (.object members), rfl⟩
  | .bare _ rest, .inr _, _, h => by
    obtain ⟨tag, htag, data, h⟩ := rest.tagged?_of_writtenAs h
    exact ⟨tag, by simp [names, htag], data, h⟩
  | .holding _ _ rest, .inr _, _, h => by
    obtain ⟨tag, htag, data, h⟩ := rest.tagged?_of_writtenAs h
    exact ⟨tag, by simp [names, htag], data, h⟩
  | .record _ _ rest, .inr _, _, h => by
    obtain ⟨tag, htag, data, h⟩ := rest.tagged?_of_writtenAs h
    exact ⟨tag, by simp [names, htag], data, h⟩

/-- Only what may be absent is written as nothing. -/
theorem Schema.ne_null_of_writtenAs {α : Type} : ∀ (schema : Schema α) {a : α} {json : Json},
    schema.nullable = false → schema.WrittenAs a json → json ≠ .null
  | .flag, _, _, _, h => by
    obtain rfl := h
    exact nofun
  | .text, _, _, _, h => by
    obtain rfl := h
    exact nofun
  | .uuid, _, _, _, h => by
    obtain rfl := h
    exact nofun
  | .list _, _, _, _, h => by
    obtain ⟨items, rfl, -⟩ := h
    exact nofun
  | .table _, _, _, _, h => by
    obtain ⟨members, rfl, -⟩ := h
    exact nofun
  | .record _ _, _, _, _, h => by
    obtain ⟨members, kept, rfl, -⟩ := h
    exact nofun
  | .choice cases, _, _, _, h => by
    obtain ⟨tag, -, data, htagged⟩ := cases.tagged?_of_writtenAs h
    rintro rfl
    cases htagged
  | .via schema _ _ _, _, _, hsolid, h => schema.ne_null_of_writtenAs hsolid h

mutual

/-- A value is read from each of its forms. -/
theorem Schema.ofJson?_written {α : Type} : ∀ (schema : Schema α) (_ : schema.clear = true)
    {a : α} {json : Json} (_ : schema.WrittenAs a json), schema.ofJson? json = some a
  | .flag, _, _, _, h => by
    obtain rfl := h
    rfl
  | .text, _, _, _, h => by
    obtain rfl := h
    rfl
  | .uuid, _, id, _, h => by
    obtain rfl := h
    exact Uuid.ofString?_toString id
  | .optional _, _, none, _, h => by
    obtain rfl := h
    rfl
  | .optional schema, hclear, some a, json, h => by
    simp only [Schema.clear, Bool.and_eq_true, Bool.not_eq_true'] at hclear
    have hsome := schema.ne_null_of_writtenAs hclear.1 h
    have hread := schema.ofJson?_written hclear.2 h
    cases json with
    | null => exact absurd rfl hsome
    | _ => exact congrArg (Option.map some) hread
  | .list schema, hclear, _, _, h => by
    obtain ⟨items, rfl, hitems⟩ := h
    exact mapM_of_forall₂ (fun _ _ h => schema.ofJson?_written hclear h) hitems
  | .table schema, hclear, _, _, h => by
    obtain ⟨members, rfl, hmembers⟩ := h
    refine mapM_of_forall₂ (fun e m hm => ?_) hmembers
    rw [hm.1, Uuid.ofString?_toString, schema.ofJson?_written hclear hm.2]
    rfl
  | .record _ fields, hclear, _, _, h => by
    obtain ⟨members, kept, rfl, hkept, hperm⟩ := h
    exact fields.ofMembers?_kept hclear hkept (fields.lookup_of_keptAs hclear hkept hperm)
  | .choice cases, hclear, _, _, h => cases.ofTagged?_written hclear h
  | .via schema make parts make_parts, hclear, a, _, h => by
    have hparts := schema.ofJson?_written hclear h
    exact (congrArg (Option.map make) hparts).trans (congrArg some (make_parts a))

/-- Fields are read from members among which those that are kept are found. -/
theorem Fields.ofMembers?_kept {α : Type} : ∀ (fields : Fields α) (_ : fields.clear = true)
    {a : α} {members kept : List (String × Json)} (_ : fields.KeptAs a kept)
    (_ : ∀ name ∈ fields.names, members.lookup name = kept.lookup name),
    fields.ofMembers? members = some a
  | .done, _, _, _, _, _, _ => rfl
  | .field name schema default rest, hclear, (a, b), members, kept, hkept, hfound => by
    simp only [Fields.clear, Bool.and_eq_true, Bool.not_eq_true', List.contains_eq_mem,
      decide_eq_false_iff_not] at hclear
    obtain ⟨⟨hfresh, hschema⟩, hrest⟩ := hclear
    have hname := hfound name (by simp [Fields.names])
    have hothers : ∀ other ∈ rest.names, members.lookup other = kept.lookup other :=
      fun other hother => hfound other (by simp [Fields.names, hother])
    rcases hkept with ⟨json, others, rfl, hwritten, hkept⟩ | ⟨rfl, hkept⟩
    · have hlater : ∀ other ∈ rest.names, members.lookup other = others.lookup other := by
        intro other hother
        have hne : (other == name) = false := beq_eq_false_iff_ne.2 fun heq =>
          hfresh (heq ▸ hother)
        rw [hothers other hother, List.lookup_cons, hne]
      rw [List.lookup_cons_self] at hname
      simp [Fields.ofMembers?, hname, schema.ofJson?_written hschema hwritten,
        rest.ofMembers?_kept hrest hkept hlater]
    · have habsent : kept.lookup name = none := by
        refine List.lookup_eq_none_iff.2 fun m hm => bne_iff_ne.2 fun heq => hfresh ?_
        exact (rest.sublist_of_keptAs hkept).mem (heq ▸ List.mem_map_of_mem hm)
      rw [habsent] at hname
      simp [Fields.ofMembers?, hname, rest.ofMembers?_kept hrest hkept hothers]

theorem Cases.ofTagged?_written {α : Type} : ∀ (cases : Cases α) (_ : cases.clear = true)
    {a : α} {json : Json} (_ : cases.WrittenAs a json),
    (json.tagged?.bind fun c => cases.ofTagged? c.1 c.2) = some a
  | .bare name rest, _, .inl (), _, h => by
    obtain rfl := h
    simp [Json.tagged?, Cases.ofTagged?]
  | .bare _ rest, hclear, .inr _, _, h => by
    simp only [Cases.clear, Bool.and_eq_true] at hclear
    exact Cases.bind_later (fun _ _ hne => if_neg hne) hclear.1 (rest.tagged?_of_writtenAs h)
      (rest.ofTagged?_written hclear.2 h)
  | .holding name schema rest, hclear, .inl _, _, h => by
    simp only [Cases.clear, Bool.and_eq_true] at hclear
    obtain ⟨data, rfl, hdata⟩ := h
    simp [Json.tagged?, Cases.ofTagged?, schema.ofJson?_written hclear.1.2 hdata]
  | .holding _ _ rest, hclear, .inr _, _, h => by
    simp only [Cases.clear, Bool.and_eq_true] at hclear
    exact Cases.bind_later (fun _ _ hne => if_neg hne) hclear.1.1 (rest.tagged?_of_writtenAs h)
      (rest.ofTagged?_written hclear.2 h)
  | .record name fields rest, hclear, .inl _, _, h => by
    simp only [Cases.clear, Bool.and_eq_true] at hclear
    obtain ⟨members, kept, rfl, hkept, hperm⟩ := h
    have hread := fields.ofMembers?_kept hclear.1.2 hkept
      (fields.lookup_of_keptAs hclear.1.2 hkept hperm)
    simp [Json.tagged?, Cases.ofTagged?, hread]
  | .record _ _ rest, hclear, .inr _, _, h => by
    simp only [Cases.clear, Bool.and_eq_true] at hclear
    exact Cases.bind_later (fun _ _ hne => if_neg hne) hclear.1.1 (rest.tagged?_of_writtenAs h)
      (rest.ofTagged?_written hclear.2 h)

end

/-! ## Stories -/

namespace Story

theorem clear_schema : schema.clear = true := by decide +kernel

/-- What need not be said of behaviors, choices and actions. They are on, except that nothing can be
taken or used by itself, and what is taken is gone. -/
structure LeastForms : Prop where
  moving : Moving.schema.WrittenAs { enabled := true } (.object [])
  taking : Taking.schema.WrittenAs { enabled := false, removeItem := true } (.object [])
  usage : usageSchema.WrittenAs { enabled := false } (.object [])
  talk : (Talk.schema dialect "TalkDef").WrittenAs { enabled := true } (.object [])
  interaction {partner : Partner} {json : Json} (h : Partner.schema.WrittenAs partner json) :
    (Interaction.schema dialect "InteractionDef").WrittenAs { partner, enabled := true }
      (.object [("partner", json)])
  choice (symbol text : String) : Choice.schema.WrittenAs { symbol, text, enabled := true }
    (.object [("id", .string symbol), ("text", .string text)])
  action (symbol : String) {effect : Effect Symbol Partner} {json : Json}
      (h : (Effect.schema dialect (· ++ "Def")).WrittenAs effect json) :
    Action.schema.WrittenAs { symbol, effect, enabled := true }
      (.object [("id", .string symbol), ("kind", json)])
  take (item : String) : (Effect.schema dialect (· ++ "Def")).WrittenAs (.take item true [])
    (.object [("Take", .object [("item", .string item)])])

theorem leastForms : LeastForms where
  moving := ⟨_, _, rfl, .leave (.leave (.leave (.leave (.leave rfl)))), .refl _⟩
  taking := ⟨_, _, rfl, .leave (.leave (.leave (.leave (.leave (.leave (.leave rfl)))))), .refl _⟩
  usage := ⟨_, _, rfl, .leave (.leave (.leave (.leave (.leave rfl)))), .refl _⟩
  talk := ⟨_, _, rfl, .leave (.leave (.leave (.leave (.leave rfl)))), .refl _⟩
  interaction h :=
    ⟨_, _, rfl, .keep h (.leave (.leave (.leave (.leave (.leave rfl))))), .refl _⟩
  choice _ _ :=
    ⟨_, _, rfl, .keep rfl (.keep rfl (.leave (.leave (.leave (.leave (.leave rfl)))))), .refl _⟩
  action _ _ _ h := ⟨_, _, rfl, .keep rfl (.leave (.leave (.leave (.keep h rfl)))), .refl _⟩
  take _ := ⟨_, _, rfl, .keep rfl (.leave (.leave rfl)), .refl _⟩

/-- The full form of a story is one of its forms, and the story is read from each of them. -/
theorem ofJson?_form (s : Story) : schema.WrittenAs s (schema.toJson s) ∧ LeastForms ∧
    ∀ json, schema.WrittenAs s json → schema.ofJson? json = some s :=
  ⟨schema.writtenAs_toJson s, leastForms, fun _ => schema.ofJson?_written clear_schema⟩

/-- A lamp that can be taken. -/
def lampStory : Story where
  player := { startLocation := "hall" }
  items := [{ symbol := "lamp", name := "Lamp", taking := { enabled := true } }]
  actions := [{ symbol := "fetch", effect := .take "lamp" true [] }]

/-- A form of the story that says no more than it has to, and something else besides. -/
def lampForm : Json :=
  .object
    [("editor", .object [("zoom", .number 2)]),
     ("player", .object [("start_location", .string "hall")]),
     ("items", .array [.object
       [("id", .string "lamp"), ("name", .string "Lamp"), ("weight", .number 1),
        ("take", .object [("enabled", .bool true)])]]),
     ("actions", .array [.object
       [("kind", .object [("Take", .object [("item", .string "lamp"), ("note", .null)])]),
        ("id", .string "fetch")]])]

theorem writtenAs_lampForm : schema.WrittenAs lampStory lampForm := by
  have hplayer : Player.schema.WrittenAs { startLocation := "hall" }
      (.object [("start_location", .string "hall")]) :=
    ⟨_, _, rfl, .leave (.keep rfl (.leave rfl)), .refl _⟩
  have htaking : Taking.schema.WrittenAs { enabled := true }
      (.object [("enabled", .bool true)]) :=
    ⟨_, _, rfl, .keep rfl (.leave (.leave (.leave (.leave (.leave (.leave rfl)))))), .refl _⟩
  have hlamp : Item.schema.WrittenAs
      { symbol := "lamp", name := "Lamp", taking := { enabled := true } }
      (.object [("id", .string "lamp"), ("name", .string "Lamp"), ("weight", .number 1),
        ("take", .object [("enabled", .bool true)])]) :=
    ⟨_, _, rfl, .keep rfl (.keep rfl (.leave (.leave (.leave (.keep htaking
      (.leave (.leave rfl))))))), .refl _⟩
  have htake : (Effect.schema dialect (· ++ "Def")).WrittenAs (.take "lamp" true [])
      (.object [("Take", .object [("item", .string "lamp"), ("note", .null)])]) :=
    ⟨_, _, rfl, .keep rfl (.leave (.leave rfl)), .refl _⟩
  have hfetch : Action.schema.WrittenAs { symbol := "fetch", effect := .take "lamp" true [] }
      (.object [("kind", .object [("Take", .object [("item", .string "lamp"), ("note", .null)])]),
        ("id", .string "fetch")]) :=
    ⟨_, _, rfl, .keep rfl (.leave (.leave (.leave (.keep htake rfl)))), .swap ..⟩
  exact ⟨_, _, rfl, .leave (.keep hplayer (.leave (.leave (.keep ⟨_, rfl, .cons hlamp .nil⟩
    (.leave (.leave (.leave (.keep ⟨_, rfl, .cons hfetch .nil⟩ rfl)))))))), .refl _⟩

/-- The form of the story with a lamp does not say what is as usual, such as that the lamp is gone
when it has been taken. -/
theorem ofJson?_form_lamp : schema.WrittenAs lampStory (schema.toJson lampStory) ∧ LeastForms ∧
    schema.WrittenAs lampStory lampForm ∧ schema.ofJson? lampForm = some lampStory :=
  have h := ofJson?_form lampStory
  ⟨h.1, h.2.1, writtenAs_lampForm, h.2.2 lampForm writtenAs_lampForm⟩

end Story

end Adventure
