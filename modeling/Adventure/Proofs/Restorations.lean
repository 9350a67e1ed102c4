import Adventure.Proofs.Arenas
import Adventure.Proofs.Snapshots
import Mathlib.Data.List.Perm.Basic

/-!
# Restoring worlds

A world is restored from its snapshot as it was. The entities of a world have no order of their own,
so a snapshot may list those of an arena in any order, and from each such text the same world is
restored (`World.restore?_saved`).

What is written in one form only is read back by the laws of schemas. An arena is read back from its
entries in whatever order they come. A world's fields are then read one after the other
(`Fields.ofRon?_rearranged`).
-/

namespace Adventure

namespace Ron

/-- A map is written with its entries in any order, another value in one form only. -/
inductive Rearranged : Ron → Ron → Prop
  | same (v : Ron) : Rearranged v v
  | map {entries arranged : List (Ron × Ron)} (h : arranged.Perm entries) :
      Rearranged (.map entries) (.map arranged)

/-- Fields with the same names in the same order, whose maps may have other orders. -/
def RearrangedFields (fields arranged : List (String × Ron)) : Prop :=
  List.Forall₂ (fun f g => f.1 = g.1 ∧ Rearranged f.2 g.2) fields arranged

/-- The fields with the entries of each map the other way round. -/
def reverseMaps (fields : List (String × Ron)) : List (String × Ron) :=
  fields.map fun f => (f.1, match f.2 with
    | .map entries => .map entries.reverse
    | v => v)

theorem rearrangedFields_reverseMaps (fields : List (String × Ron)) :
    RearrangedFields fields (reverseMaps fields) := by
  refine List.forall₂_map_right_iff.2 (List.forall₂_same.2 fun f _ => ⟨rfl, ?_⟩)
  obtain ⟨name, v⟩ := f
  cases v with
  | map entries => exact .map (List.reverse_perm entries)
  | _ => exact .same _

theorem Rearranged.legible {n : Nat} {v v' : Ron} (h : Rearranged v v') (hv : Legible n v) :
    Legible n v' := by
  cases h with
  | same => exact hv
  | map hperm =>
    cases hv with
    | map keys parts =>
      exact .map (fun e he => keys e (hperm.mem_iff.1 he)) fun e he => parts e (hperm.mem_iff.1 he)

theorem Rearranged.exists_map {entries : List (Ron × Ron)} {v : Ron}
    (h : Rearranged (.map entries) v) :
    ∃ arranged, v = .map arranged ∧ arranged.Perm entries := by
  cases h with
  | same => exact ⟨entries, rfl, .refl _⟩
  | map hperm => exact ⟨_, rfl, hperm⟩

section

variable {fields arranged : List (String × Ron)} (h : RearrangedFields fields arranged)
include h

theorem RearrangedFields.names_eq : arranged.map (·.1) = fields.map (·.1) := by
  induction h with
  | nil => rfl
  | cons hfield _ ih => rw [List.map_cons, List.map_cons, ih, hfield.1]

theorem RearrangedFields.legible {n : Nat}
    (hfields : ∀ f ∈ fields, isName f.1 = true ∧ Legible n f.2) :
    ∀ g ∈ arranged, isName g.1 = true ∧ Legible n g.2 := by
  induction h with
  | nil => nofun
  | cons hfield _ ih =>
    obtain ⟨⟨hname, hvalue⟩, hrest⟩ := List.forall_mem_cons.1 hfields
    exact List.forall_mem_cons.2 ⟨⟨hfield.1 ▸ hname, hfield.2.legible hvalue⟩, ih hrest⟩

/-- A record is legible however the maps in it are arranged. -/
theorem RearrangedFields.legible_record {n : Nat} (hrecord : Legible n (.record none fields)) :
    Legible n (.record none arranged) := by
  cases hrecord with
  | record free some names parts =>
    have hall := h.legible fun f hf => ⟨names f hf, parts f hf⟩
    refine .record free ?_ (fun g hg => (hall g hg).1) fun g hg => (hall g hg).2
    rintro rfl
    exact some (List.forall₂_nil_right_iff.1 h)

end

end Ron

/-! ## Reading what has been rearranged -/

/-- A value that is read back however it is arranged, if its layout is legible within a number of
levels. -/
def Schema.Steady {α : Type} (n : Nat) (schema : Schema α) (a : α) : Prop :=
  schema.fits n = true → ∀ v, Ron.Rearranged (schema.toRon a) v → schema.ofRon? {} v = some a

/-- Fields of which each is read back however it is arranged. -/
def Fields.Steady {α : Type} (n : Nat) : Fields α → α → Prop
  | .done, _ => True
  | .field _ schema _ rest, (a, b) => schema.Steady n a ∧ rest.Steady n b

/-- What is not written as a map is read back as it is written. -/
theorem Schema.steady_of_ne_map {α : Type} {n : Nat} {schema : Schema α} {a : α}
    (hne : ∀ entries, schema.toRon a ≠ .map entries) : schema.Steady n a := by
  intro hfits v hv
  generalize hw : schema.toRon a = w at hv
  cases hv with
  | same => exact hw ▸ schema.ofRon?_toRon n hfits a
  | map => exact absurd hw (hne _)

/-- The entries of a table that has been rearranged are those of the table in another order. -/
theorem Schema.exists_of_rearranged_table {α : Type} {schema : Schema α}
    {entries : List (Uuid × α)} {v : Ron}
    (h : Ron.Rearranged ((Schema.table schema).toRon entries) v) :
    ∃ arranged : List (Uuid × α), v = (Schema.table schema).toRon arranged ∧
      arranged.Perm entries := by
  obtain ⟨arranged, rfl, hperm⟩ := h.exists_map
  obtain ⟨others, rfl, hothers⟩ := (congrFun₂ (List.eq_map_comp_perm _) _ _).mpr hperm
  exact ⟨others, rfl, hothers⟩

/-- An arena is read back from its entries in whatever order they come. -/
theorem Arena.steady {kind : EntityKind} {α : Type} {n : Nat} {entity : Schema α}
    (arena : Arena kind α) : (Arena.schema entity).Steady n arena := by
  intro hfits v hv
  obtain ⟨arranged, rfl, hperm⟩ := Schema.exists_of_rearranged_table hv
  have hread := Schema.ofRon?_toRon n (.table entity) hfits arranged
  have hentries : (arranged.map fun e => (⟨e.1⟩, e.2)).Perm arena.entries := by
    simpa [Function.comp_def] using hperm.map fun e => ((⟨e.1⟩, e.2) : EntityId kind × α)
  rw [Arena.schema, Schema.ofRon?, hread, Option.map_some, Arena.ofList_of_perm hentries]

/-- Fields are found among those that are given, however these are arranged. -/
theorem Fields.ofRon?_rearranged {α : Type} (n : Nat) :
    ∀ (fields : Fields α) (_ : fields.fits n = true) (a : α) (_ : fields.Steady n a)
    (arranged given : List (String × Ron)) (_ : Ron.RearrangedFields (fields.toRon a) arranged)
    (_ : ∀ name ∈ fields.names,
      given.filter (·.1 == name) = arranged.filter (·.1 == name)),
    fields.ofRon? {} given = some a
  | .done, _, (), _, _, _, _, _ => rfl
  | .field name schema _ rest, h, (a, b), hsteady, _, given, harranged, hgiven => by
    obtain ⟨ha, hb⟩ := hsteady
    simp only [Fields.fits, Bool.and_eq_true, Bool.not_eq_true', List.contains_eq_mem,
      decide_eq_false_iff_not] at h
    obtain ⟨⟨⟨-, hfresh⟩, hschema⟩, hrest⟩ := h
    cases harranged with
    | @cons _ g _ others hfield hothers =>
      obtain ⟨other, v⟩ := g
      obtain ⟨rfl, hv⟩ := hfield
      have hnames := (Ron.RearrangedFields.names_eq hothers).trans (rest.names_toRon b)
      exact Fields.ofRon?_field hfresh hnames hgiven (ha hschema v hv)
        (rest.ofRon?_rearranged n hrest b hb others given hothers)

/-- A record is read back however the maps in its fields are arranged. -/
theorem Schema.ofRon?_record {α : Type} {n : Nat} {name : String} {fields : Fields α} {a : α}
    {arranged : List (String × Ron)} (hfits : (Schema.record name fields).fits n = true)
    (hsteady : fields.Steady (n - 2) a)
    (harranged : Ron.RearrangedFields (fields.toRon a) arranged) :
    (Schema.record name fields).ofRon? {} (.record none arranged) = some a := by
  simp only [Schema.fits, Bool.and_eq_true] at hfits
  exact fields.ofRon?_rearranged (n - 2) hfits.2 a hsteady arranged arranged harranged
    fun _ _ => rfl

namespace World

/-- The texts that a world may be saved as: those of its form, in which the entities of each arena
are listed in any order. -/
def SavedAs (w : World) (text : String) : Prop :=
  ∃ fields arranged, schema.toRon w = .record none fields ∧
    Ron.RearrangedFields fields arranged ∧ text = (Ron.record none arranged).print

theorem savedAs_snapshot (w : World) : w.SavedAs w.snapshot :=
  ⟨_, _, rfl, List.forall₂_same.2 fun f _ => ⟨rfl, .same f.2⟩, rfl⟩

/-- A snapshot is a text that the world may be saved as, and from each such text the world is
restored as it was. -/
theorem restore?_saved (w : World) :
    w.SavedAs w.snapshot ∧ ∀ text, w.SavedAs text → restore? text = some w := by
  refine ⟨w.savedAs_snapshot, ?_⟩
  rintro text ⟨fields, arranged, hform, harranged, rfl⟩
  have hlegible := schema.legible_toRon Ron.levels fits_schema w
  rw [hform] at hlegible
  have hread : schema.ofRon? {} (.record none arranged) = some w := by
    cases hform
    exact congrArg (Option.map _) <| Schema.ofRon?_record fits_schema
      ⟨Schema.steady_of_ne_map nofun, Schema.steady_of_ne_map nofun, Arena.steady _, Arena.steady _,
        Arena.steady _, Arena.steady _, Arena.steady _, Arena.steady _, Arena.steady _,
        Arena.steady _, Arena.steady _, Schema.steady_of_ne_map nofun, trivial⟩ harranged
  simp [restore?, Ron.parse?_print (harranged.legible_record hlegible), hread]

/-- Two locations with texts that are not written as they are. -/
def twoLocations : World :=
  let hall : Location := ⟨⟨⟨1⟩⟩, "hall", "The \"Hall\"", "A draft.\nA door\\wall.", [], [], []⟩
  let yard : Location := ⟨⟨⟨2⟩⟩, "yard", "Höf\u0000", "", [], [], []⟩
  { World.empty {} "1" with locations := .ofList [(⟨⟨1⟩⟩, hall), (⟨⟨2⟩⟩, yard)] }

/-- The world is restored from a text in which the second location comes first. -/
theorem restore?_saved_twoLocations : ∃ fields, schema.toRon twoLocations = .record none fields ∧
    twoLocations.SavedAs twoLocations.snapshot ∧
    twoLocations.SavedAs (Ron.record none (Ron.reverseMaps fields)).print ∧
    restore? (Ron.record none (Ron.reverseMaps fields)).print = some twoLocations :=
  have hreversed := Ron.rearrangedFields_reverseMaps
  have h := restore?_saved twoLocations
  ⟨_, rfl, h.1, ⟨_, _, rfl, hreversed _, rfl⟩, h.2 _ ⟨_, _, rfl, hreversed _, rfl⟩⟩

end World

end Adventure
