import Adventure.Proofs.PrintedRon
import Adventure.Ron.Schema
import Mathlib.Algebra.Group.Nat.Defs

/-!
# Values are read from their RON forms

What a schema writes, it reads back (`Schema.ofRon?_toRon`), and what it writes is legible
(`Schema.legible_toRon`), so that it can be printed in between. Both hold of the schemas that `fits`
admits, which looks at names only: no two fields of a record and no two cases of a choice share
one, and each is what the printer and the parser take for a name. The inductions are on the three
kinds of layouts at once.
-/

namespace Adventure

/-! ## Identifiers -/

namespace Uuid

theorem length_digits (k n : Nat) : (digits k n).length = k := by
  induction k generalizing n with
  | zero => rfl
  | succ k ih => rw [digits, List.length_append, ih, List.length_singleton]

theorem digitValue?_digit : ∀ d < 16, digitValue? (digit d) = some d := by decide

theorem valueFrom?_append (n : Nat) (cs ds : List Char) :
    valueFrom? n (cs ++ ds) = (valueFrom? n cs).bind fun m => valueFrom? m ds := by
  induction cs generalizing n with
  | nil => rfl
  | cons c cs ih =>
    rw [List.cons_append, valueFrom?, valueFrom?]
    cases digitValue? c with
    | none => rfl
    | some d => exact ih _

theorem valueFrom?_digits (k n m : Nat) :
    valueFrom? m (digits k n) = some (16 ^ k * m + n % 16 ^ k) := by
  induction k generalizing n with
  | zero => simp [digits, valueFrom?, Nat.mod_one]
  | succ k ih =>
    have hlow : n % 16 ^ (k + 1) = 16 * (n / 16 % 16 ^ k) + n % 16 := by
      rw [Nat.pow_succ', Nat.mod_mul]
      omega
    rw [digits, valueFrom?_append, ih]
    simp only [Option.bind_some, valueFrom?, digitValue?_digit _ (Nat.mod_lt n (by decide)), hlow]
    congr 1
    rw [Nat.pow_succ', Nat.mul_add, Nat.mul_assoc]
    omega

theorem ofDigits?_digits (id : Uuid) : ofDigits? (digits 32 id.toNat) = some id := by
  have hlt : id.toNat < 16 ^ 32 := Nat.lt_of_lt_of_eq id.bits.isLt (by decide)
  rw [ofDigits?, if_pos (length_digits 32 _), valueFrom?_digits, Nat.mod_eq_of_lt hlt]
  simp [toNat]

/-- An identifier is read as it is written. -/
theorem ofString?_toString (id : Uuid) : ofString? id.toString = some id := by
  have hread := ofDigits?_digits id
  have hlength := length_digits 32 id.toNat
  rw [ofString?, toString, String.toList_ofList, toChars]
  generalize digits 32 id.toNat = ds at hread hlength ⊢
  have htake : ∀ i, (ds.drop i).take 4 ++ ds.drop (i + 4) = ds.drop i := by
    intro i
    rw [← List.drop_drop, List.take_append_drop]
  have hgroups : ds.take 8 ++ ((ds.drop 8).take 4 ++ ((ds.drop 12).take 4 ++
      ((ds.drop 16).take 4 ++ ds.drop 20))) = ds := by
    rw [htake 16, htake 12, htake 8, List.take_append_drop]
  simpa [ofChars?, ofGroups?, List.take_append, List.drop_append, List.drop_take, hlength, hgroups]
    using hread

end Uuid

/-! ## Schemas whose names can be read -/

mutual

/-- The names of the fields. -/
def Fields.names {α : Type} : Fields α → List String
  | .done => []
  | .field name _ _ rest => name :: rest.names

/-- The names of the cases. -/
def Cases.names {α : Type} : Cases α → List String
  | .done => []
  | .bare name rest => name :: rest.names
  | .holding name _ rest => name :: rest.names
  | .record name _ rest => name :: rest.names

end

mutual

/-- Whether values of a type are legible within a number of levels and can be told from their
names. -/
def Schema.fits {α : Type} (n : Nat) : Schema α → Bool
  | .flag => true
  | .text => true
  | .uuid => true
  | .optional schema => decide (1 ≤ n) && schema.fits (n - 1)
  | .list schema => decide (2 ≤ n) && schema.fits (n - 2)
  | .table schema => decide (2 ≤ n) && schema.fits (n - 2)
  | .record _ fields => decide (2 ≤ n) && !fields.names.isEmpty && fields.fits (n - 2)
  | .choice cases => cases.fits n
  | .via schema _ _ _ => schema.fits n

/-- Whether fields are named apart and their values fit. -/
def Fields.fits {α : Type} (n : Nat) : Fields α → Bool
  | .done => true
  | .field name schema _ rest =>
    Ron.isName name && !rest.names.contains name && schema.fits n && rest.fits n

/-- Whether cases are named apart and their values fit. -/
def Cases.fits {α : Type} (n : Nat) : Cases α → Bool
  | .done => true
  | .bare name rest => Ron.isFreeName name && !rest.names.contains name && rest.fits n
  | .holding name schema rest =>
    Ron.isFreeName name && !rest.names.contains name && decide (2 ≤ n) && schema.fits (n - 2)
      && rest.fits n
  | .record name fields rest =>
    Ron.isFreeName name && !rest.names.contains name && decide (2 ≤ n) && !fields.names.isEmpty
      && fields.fits (n - 2) && rest.fits n

end

/-! ## Reading back -/

theorem mapM_map_of_some {α β : Type} {f : α → β} {g : β → Option α} (h : ∀ a, g (f a) = some a)
    (as : List α) : (as.map f).mapM g = some as := by
  induction as with
  | nil => rfl
  | cons a as ih => simp [h, ih]

theorem Cases.case?_toRon {α : Type} : ∀ (cases : Cases α) (a : α),
    ∃ tag ∈ cases.names, ∃ data, (cases.toRon a).case? = some (tag, data)
  | .done, e => nomatch e
  | .bare name _, .inl () => ⟨name, by simp [names], none, rfl⟩
  | .holding name schema _, .inl a =>
    ⟨name, by simp [names], some (.tuple none [schema.toRon a]), rfl⟩
  | .record name fields _, .inl a =>
    ⟨name, by simp [names], some (.record none (fields.toRon a)), rfl⟩
  | .bare _ rest, .inr b => by
    obtain ⟨tag, htag, data, h⟩ := rest.case?_toRon b
    exact ⟨tag, by simp [names, htag], data, h⟩
  | .holding _ _ rest, .inr b => by
    obtain ⟨tag, htag, data, h⟩ := rest.case?_toRon b
    exact ⟨tag, by simp [names, htag], data, h⟩
  | .record _ _ rest, .inr b => by
    obtain ⟨tag, htag, data, h⟩ := rest.case?_toRon b
    exact ⟨tag, by simp [names, htag], data, h⟩

theorem Fields.names_toRon {α : Type} : ∀ (fields : Fields α) (a : α),
    (fields.toRon a).map (·.1) = fields.names
  | .done, () => rfl
  | .field name _ _ rest, (_, b) => congrArg (name :: ·) (rest.names_toRon b)

/-- A case after one with another name is found where the first one is passed over. -/
theorem Cases.bind_later {α β δ : Type} {name : String} {rest : Cases β} {b : β}
    {found : Option (String × δ)} {read? : String → δ → Option (α ⊕ β)}
    {rest? : String → δ → Option β}
    (hread : ∀ tag data, tag ≠ name → read? tag data = (rest? tag data).map .inr)
    (hfresh : (!rest.names.contains name) = true)
    (hfound : ∃ tag ∈ rest.names, ∃ data, found = some (tag, data))
    (h : (found.bind fun c => rest? c.1 c.2) = some b) :
    (found.bind fun c => read? c.1 c.2) = some (.inr b) := by
  obtain ⟨tag, htag, data, rfl⟩ := hfound
  have hne : tag ≠ name := by
    rintro rfl
    simp [htag] at hfresh
  simp only [Option.bind_some] at h ⊢
  rw [hread tag data hne, h, Option.map_some]

/-- A field is read, and the others after it, if each name is found as often as it is written. -/
theorem Fields.ofRon?_field {α β : Type} {name : String} {schema : Schema α} {default : Option α}
    {rest : Fields β} {a : α} {b : β} {v : Ron} {given others : List (String × Ron)}
    (hfresh : name ∉ rest.names) (hnames : others.map (·.1) = rest.names)
    (hgiven : ∀ other ∈ name :: rest.names,
      given.filter (·.1 == other) = ((name, v) :: others).filter (·.1 == other))
    (hv : schema.ofRon? {} v = some a)
    (hrest : (∀ other ∈ rest.names,
      given.filter (·.1 == other) = others.filter (·.1 == other)) →
        rest.ofRon? {} given = some b) :
    (Fields.field name schema default rest).ofRon? {} given = some (a, b) := by
  have hothers : others.filter (·.1 == name) = [] := by
    rw [List.filter_eq_nil_iff]
    intro f hf hname
    refine hfresh ?_
    rw [← hnames, ← eq_of_beq hname]
    exact List.mem_map_of_mem hf
  have hone : given.filter (·.1 == name) = [(name, v)] := by
    rw [hgiven name List.mem_cons_self]
    simpa using hothers
  have hmore : ∀ other ∈ rest.names,
      given.filter (·.1 == other) = others.filter (·.1 == other) := by
    intro other hother
    have hne : name ≠ other := by
      rintro rfl
      exact hfresh hother
    rw [hgiven other (List.mem_cons_of_mem _ hother)]
    simp [hne]
  simp [Fields.ofRon?, hone, hv, hrest hmore]

mutual

/-- What a schema writes, it reads back. -/
theorem Schema.ofRon?_toRon {α : Type} (n : Nat) :
    ∀ (schema : Schema α) (_ : schema.fits n = true) (a : α),
    schema.ofRon? {} (schema.toRon a) = some a
  | .flag, _, _ => rfl
  | .text, _, _ => rfl
  | .uuid, _, id => Uuid.ofString?_toString id
  | .optional _, _, none => rfl
  | .optional schema, h, some a => by
    simp only [Schema.fits, Bool.and_eq_true] at h
    exact congrArg (Option.map some) (schema.ofRon?_toRon (n - 1) h.2 a)
  | .list schema, h, as => by
    simp only [Schema.fits, Bool.and_eq_true] at h
    exact mapM_map_of_some (schema.ofRon?_toRon (n - 2) h.2) as
  | .table schema, h, entries => by
    simp only [Schema.fits, Bool.and_eq_true] at h
    refine mapM_map_of_some (fun e => ?_) entries
    simp [Uuid.ofString?_toString, schema.ofRon?_toRon (n - 2) h.2]
  | .record name fields, h, a => by
    simp only [Schema.fits, Bool.and_eq_true] at h
    exact fields.ofRon?_toRon (n - 2) h.2 a _ fun _ _ => rfl
  | .choice cases, h, a => cases.ofRon?_toRon n h a
  | .via schema make parts make_parts, h, a => by
    have hparts := schema.ofRon?_toRon n h (parts a)
    exact (congrArg (Option.map make) hparts).trans (congrArg some (make_parts a))

/-- Fields are found among those that are given as far as these have their names. -/
theorem Fields.ofRon?_toRon {α : Type} (n : Nat) :
    ∀ (fields : Fields α) (_ : fields.fits n = true) (a : α)
    (given : List (String × Ron)) (_ : ∀ name ∈ fields.names,
      given.filter (·.1 == name) = (fields.toRon a).filter (·.1 == name)),
    fields.ofRon? {} given = some a
  | .done, _, (), _, _ => rfl
  | .field name schema _ rest, h, (a, b), given, hgiven => by
    simp only [Fields.fits, Bool.and_eq_true, Bool.not_eq_true', List.contains_eq_mem,
      decide_eq_false_iff_not] at h
    obtain ⟨⟨⟨-, hfresh⟩, hschema⟩, hrest⟩ := h
    exact Fields.ofRon?_field hfresh (rest.names_toRon b) hgiven
      (schema.ofRon?_toRon n hschema a) (rest.ofRon?_toRon n hrest b given)

theorem Cases.ofRon?_toRon {α : Type} (n : Nat) :
    ∀ (cases : Cases α) (_ : cases.fits n = true) (a : α),
    ((cases.toRon a).case?.bind fun c => cases.ofRon? {} c.1 c.2) = some a
  | .done, _, e => nomatch e
  | .bare name rest, _, .inl () => by simp [Cases.toRon, Ron.case?, Cases.ofRon?]
  | .bare name rest, h, .inr b => by
    simp only [Cases.fits, Bool.and_eq_true] at h
    exact Cases.bind_later (fun _ _ hne => if_neg hne) h.1.2 (rest.case?_toRon b)
      (rest.ofRon?_toRon n h.2 b)
  | .holding name schema rest, h, .inl a => by
    simp only [Cases.fits, Bool.and_eq_true] at h
    simp [Cases.toRon, Ron.case?, Cases.ofRon?, schema.ofRon?_toRon (n - 2) h.1.2 a]
  | .holding name schema rest, h, .inr b => by
    simp only [Cases.fits, Bool.and_eq_true] at h
    exact Cases.bind_later (fun _ _ hne => if_neg hne) h.1.1.1.2 (rest.case?_toRon b)
      (rest.ofRon?_toRon n h.2 b)
  | .record name fields rest, h, .inl a => by
    simp only [Cases.fits, Bool.and_eq_true] at h
    have hfields := fields.ofRon?_toRon (n - 2) h.1.2 a _ fun _ _ => rfl
    simp [Cases.toRon, Ron.case?, Cases.ofRon?, Ron.recordParts?, hfields]
  | .record name fields rest, h, .inr b => by
    simp only [Cases.fits, Bool.and_eq_true] at h
    exact Cases.bind_later (fun _ _ hne => if_neg hne) h.1.1.1.1.2 (rest.case?_toRon b)
      (rest.ofRon?_toRon n h.2 b)

end

/-! ## Legibility -/

theorem Fields.toRon_ne_nil {α : Type} (fields : Fields α)
    (h : (!fields.names.isEmpty) = true) (a : α) : fields.toRon a ≠ [] := by
  intro hnil
  have hnames := fields.names_toRon a
  rw [hnil, List.map_nil] at hnames
  simp [← hnames] at h

mutual

/-- What a schema writes is legible. -/
theorem Schema.legible_toRon {α : Type} (n : Nat) : ∀ (schema : Schema α)
    (_ : schema.fits n = true) (a : α), Ron.Legible n (schema.toRon a)
  | .flag, _, b => .bool b
  | .text, _, s => .string s
  | .uuid, _, id => .string id.toString
  | .optional _, _, none => .absent
  | .optional schema, h, some a => by
    simp only [Schema.fits, Bool.and_eq_true, decide_eq_true_eq] at h
    obtain ⟨n, rfl⟩ := Nat.exists_eq_add_of_le' h.1
    exact .present (schema.legible_toRon n h.2 a)
  | .list schema, h, as => by
    simp only [Schema.fits, Bool.and_eq_true, decide_eq_true_eq] at h
    obtain ⟨n, rfl⟩ := Nat.exists_eq_add_of_le' h.1
    refine .list fun v hv => ?_
    obtain ⟨a, -, rfl⟩ := List.mem_map.1 hv
    exact schema.legible_toRon n h.2 a
  | .table schema, h, entries => by
    simp only [Schema.fits, Bool.and_eq_true, decide_eq_true_eq] at h
    obtain ⟨n, rfl⟩ := Nat.exists_eq_add_of_le' h.1
    refine .map (fun e he => ?_) fun e he => ?_ <;> obtain ⟨a, -, rfl⟩ := List.mem_map.1 he
    · exact .string _
    · exact schema.legible_toRon n h.2 a.2
  | .record _ fields, h, a => by
    simp only [Schema.fits, Bool.and_eq_true, decide_eq_true_eq] at h
    obtain ⟨n, rfl⟩ := Nat.exists_eq_add_of_le' h.1.1
    have hfields := fields.legible_toRon n h.2 a
    exact .record (by simp) (fields.toRon_ne_nil h.1.2 a) (fun f hf => (hfields f hf).1)
      fun f hf => (hfields f hf).2
  | .choice cases, h, a => cases.legible_toRon n h a
  | .via schema _ parts _, h, a => schema.legible_toRon n h (parts a)

/-- The fields that are written have plain names and legible values. -/
theorem Fields.legible_toRon {α : Type} (n : Nat) : ∀ (fields : Fields α)
    (_ : fields.fits n = true) (a : α), ∀ f ∈ fields.toRon a,
    Ron.isName f.1 = true ∧ Ron.Legible n f.2
  | .done, _, (), f, hf => nomatch hf
  | .field name schema _ rest, h, (a, b), f, hf => by
    simp only [Fields.fits, Bool.and_eq_true] at h
    rcases List.mem_cons.1 hf with rfl | hf
    · exact ⟨h.1.1.1, schema.legible_toRon n h.1.2 a⟩
    · exact rest.legible_toRon n h.2 b f hf

theorem Cases.legible_toRon {α : Type} (n : Nat) : ∀ (cases : Cases α)
    (_ : cases.fits n = true) (a : α), Ron.Legible n (cases.toRon a)
  | .done, _, e => nomatch e
  | .bare name _, h, .inl () => by
    simp only [Cases.fits, Bool.and_eq_true] at h
    exact .identifier h.1.1
  | .bare _ rest, h, .inr b => by
    simp only [Cases.fits, Bool.and_eq_true] at h
    exact rest.legible_toRon n h.2 b
  | .holding name schema _, h, .inl a => by
    simp only [Cases.fits, Bool.and_eq_true, decide_eq_true_eq] at h
    obtain ⟨n, rfl⟩ := Nat.exists_eq_add_of_le' h.1.1.2
    refine .tuple (fun s hs => ?_) fun v hv => ?_
    · obtain rfl : name = s := by simpa using hs
      exact h.1.1.1.1
    · obtain rfl : v = schema.toRon a := by simpa using hv
      exact schema.legible_toRon n h.1.2 a
  | .holding _ _ rest, h, .inr b => by
    simp only [Cases.fits, Bool.and_eq_true] at h
    exact rest.legible_toRon n h.2 b
  | .record name fields _, h, .inl a => by
    simp only [Cases.fits, Bool.and_eq_true, decide_eq_true_eq] at h
    obtain ⟨n, rfl⟩ := Nat.exists_eq_add_of_le' h.1.1.1.2
    have hfields := fields.legible_toRon n h.1.2 a
    refine .record (fun s hs => ?_) (fields.toRon_ne_nil h.1.1.2 a) (fun f hf => (hfields f hf).1)
      fun f hf => (hfields f hf).2
    obtain rfl : name = s := by simpa using hs
    exact h.1.1.1.1.1
  | .record _ _ rest, h, .inr b => by
    simp only [Cases.fits, Bool.and_eq_true] at h
    exact rest.legible_toRon n h.2 b

end

end Adventure
