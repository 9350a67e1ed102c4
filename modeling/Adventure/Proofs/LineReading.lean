import Adventure.Proofs.Commands
import Adventure.Proofs.Expansions
import Adventure.Proofs.PatternSearch
import Mathlib.Data.List.Forall2

/-!
# Reading lines with patterns

Templates for a verb make up a pattern, and the pattern reads a line exactly if the line is an
expansion of one of the templates; the parameters are the words of the first of them
(`Pattern.read_exact`). The steps are known: what a template matches are the expansions of its text
(`Template.isSome_match?_iff`), and what is read off the captures are the words of the first match
(`Pattern.read_eq`). Here texts and templates are brought together place by place (`ReadFrom`), so
that a match of a template tells of the text at the same place.
-/

namespace Adventure

/-- A line is an expansion of the text of a template for some words. -/
def IsExpansion (text line : String) : Prop :=
  ∃ words, Template.Expands words text.toList line.toList

namespace Pattern

open Template

/-! ## Templates and their texts -/

/-- The templates at the places of their texts. -/
def ReadFrom (verb : Verb) (texts : List String) (templates : List Template) : Prop :=
  List.Forall₂ (fun text template => parse? verb.arity text = .ok template) texts templates

theorem readFrom_of_parseAll {verb : Verb} : ∀ {texts : List String} {templates : List Template},
    parseAll verb texts = .ok templates → ReadFrom verb texts templates
  | [], templates, h => by
    obtain rfl := Except.ok.inj h
    exact .nil
  | text :: texts, templates, h => by
    unfold parseAll at h
    split at h
    · cases h
    · rename_i template htemplate
      cases hrest : parseAll verb texts with
      | error failure =>
        rw [hrest] at h
        cases h
      | ok rest =>
        rw [hrest] at h
        obtain rfl := Except.ok.inj h
        exact .cons htemplate (readFrom_of_parseAll hrest)

theorem ReadFrom.exists_parse? {verb : Verb} {texts : List String} {templates : List Template}
    (h : ReadFrom verb texts templates) :
    ∀ t ∈ templates, ∃ text, parse? verb.arity text = .ok t := by
  induction h with
  | nil => nofun
  | cons htemplate _ ih =>
    rintro t (_ | ⟨_, ht⟩)
    · exact ⟨_, htemplate⟩
    · exact ih t ht

/-- Templates that have been read for a verb make up a well-formed pattern. -/
theorem ReadFrom.wellFormed {verb : Verb} {texts : List String} {templates : List Template}
    (h : ReadFrom verb texts templates) (hne : texts ≠ []) : WellFormed ⟨verb, templates⟩ where
  templates_ne_nil := by
    rintro rfl
    exact hne (List.forall₂_nil_right_iff.1 h)
  pieces t ht := by
    obtain ⟨text, htext⟩ := h.exists_parse? t ht
    exact (parse?_eq_ok_iff.1 htext).wellFormed
  formed t ht := by
    obtain ⟨text, htext⟩ := h.exists_parse? t ht
    exact fits_of_parse? htext

/-! ## The first template that matches -/

section

variable {verb : Verb} {texts : List String} {templates : List Template} {line : String}
  (h : ReadFrom verb texts templates)
include h

theorem ReadFrom.not_isExpansion {place : Nat}
    (hnone : firstMatch? line.toList place templates = none) :
    ∀ text ∈ texts, ¬ IsExpansion text line := by
  induction h generalizing place with
  | nil => nofun
  | @cons text template texts templates htemplate _ ih =>
    unfold firstMatch? at hnone
    split at hnone
    · cases hnone
    · rename_i hmatch
      rintro other (_ | ⟨_, hother⟩) hexpansion
      · rw [IsExpansion, ← isSome_match?_iff htemplate, hmatch] at hexpansion
        cases hexpansion
      · exact ih hnone other hother hexpansion

/-- The first template that matches belongs to the first text that the line is an expansion of. -/
theorem ReadFrom.exists_match {place k : Nat} {bindings : Bindings}
    (hsome : firstMatch? line.toList place templates = some (k, bindings)) :
    ∃ before text after template, texts = before ++ text :: after ∧ k = place + before.length ∧
      (∀ earlier ∈ before, ¬ IsExpansion earlier line) ∧
      parse? verb.arity text = .ok template ∧ template.match? line.toList = some bindings := by
  induction h generalizing place with
  | nil => cases hsome
  | @cons text template texts templates htemplate _ ih =>
    unfold firstMatch? at hsome
    split at hsome
    · rename_i hmatch
      obtain ⟨rfl, rfl⟩ := Prod.mk.inj (Option.some.inj hsome)
      exact ⟨[], text, texts, template, rfl, rfl, nofun, htemplate, hmatch⟩
    · rename_i hmatch
      obtain ⟨before, found, after, template, rfl, rfl, hbefore, hrest⟩ := ih hsome
      refine ⟨text :: before, found, after, template, rfl,
        by simp [Nat.add_assoc, Nat.add_comm 1], ?_, hrest⟩
      rintro earlier (_ | ⟨_, hearlier⟩) hexpansion
      · rw [IsExpansion, ← isSome_match?_iff htemplate, hmatch] at hexpansion
        cases hexpansion
      · exact hbefore earlier hearlier hexpansion

/-- What the first template that matches binds are the words of the first text that the line is an
expansion of. -/
theorem ReadFrom.exists_first {place k : Nat} {bindings : Bindings}
    (hsome : firstMatch? line.toList place templates = some (k, bindings)) :
    ∃ before text after, texts = before ++ text :: after ∧ k = place + before.length ∧
      (∀ earlier ∈ before, ¬ IsExpansion earlier line) ∧
      Expands (wordOf bindings) text.toList line.toList ∧
      ∀ m, (bindings.lookup m).isSome = decide (0 < expected verb.arity m) := by
  obtain ⟨before, text, after, template, htexts, hk, hbefore, htemplate, hmatch⟩ :=
    h.exists_match hsome
  exact ⟨before, text, after, htexts, hk, hbefore, expands_of_match? htemplate hmatch,
    lookup_isSome (fits_of_parse? htemplate) hmatch⟩

end

/-! ## Parameters -/

/-- The word that parameters give a marker. -/
def wordAt (parameters : List Parameter) (m : Marker) : List Char :=
  ((parameters[captureIndex m]?).map fun parameter => parameter.value.toList).getD []

/-- The parameters that bound words make have the names of the captures, the first object before
the second, and hold the words. -/
theorem parameters_eq {verb : Verb} {bindings : Bindings} (base : Nat)
    (hbound : ∀ m, (bindings.lookup m).isSome = decide (0 < expected verb.arity m)) :
    (parameters verb base bindings).map (·.group) = captureNames verb.arity base ∧
      wordAt (parameters verb base bindings) = wordOf bindings := by
  have hle := verb.arity_le_two
  rw [parameters, captureNames]
  generalize verb.arity = arity at hle hbound ⊢
  -- A marker has a word exactly if the verb names an object for it.
  have hsome : ∀ m, 0 < expected arity m → ∃ word, bindings.lookup m = some word := fun m hm =>
    Option.isSome_iff_exists.1 ((hbound m).trans (decide_eq_true hm))
  have hnone : ∀ m, expected arity m = 0 → bindings.lookup m = none := fun m hm => by
    rw [← Option.not_isSome_iff_eq_none, hbound m, hm]
    decide
  obtain rfl | rfl | rfl : arity = 0 ∨ arity = 1 ∨ arity = 2 := by omega
  · refine ⟨rfl, funext fun m => ?_⟩
    cases m <;> simp [wordAt, wordOf, hnone .a rfl, hnone .b rfl]
  · obtain ⟨a, ha⟩ := hsome .a Nat.one_pos
    refine ⟨by simp [ha, List.range_succ], funext fun m => ?_⟩
    cases m <;> simp [wordAt, wordOf, captureIndex, ha, hnone .b rfl]
  · obtain ⟨a, ha⟩ := hsome .a Nat.one_pos
    obtain ⟨b, hb⟩ := hsome .b Nat.one_pos
    refine ⟨by simp [ha, hb, List.range_succ], funext fun m => ?_⟩
    cases m <;> simp [wordAt, wordOf, captureIndex, ha, hb]

/-! ## Reading -/

/-- The parameters hold, in order, the words of the first of the texts that the line is an
expansion of, and have the names that belong to the place of this text. -/
def FirstReading (verb : Verb) (texts : List String) (line : String)
    (parameters : List Parameter) : Prop :=
  ∃ before text after, texts = before ++ text :: after ∧
    (∀ earlier ∈ before, ¬ IsExpansion earlier line) ∧
    parameters.map (·.group) = captureNames verb.arity (before.length * verb.arity) ∧
    Expands (wordAt parameters) text.toList line.toList

theorem build_eq {verb : Verb} {texts : List String} {templates : List Template}
    (h : parseAll verb texts = .ok templates) (hne : templates ≠ []) (engine : Regex.Engine) :
    build verb texts engine =
      if engine.accepts (regexText ⟨verb, templates⟩) then .ok (some ⟨verb, templates⟩)
      else .error (.badPattern verb) := by
  unfold build
  rw [h]
  cases templates with
  | nil => exact absurd rfl hne
  | cons => rfl

/-! ## Engines with limits -/

theorem backslash_mem_regexText {template : Template} {m : Marker} (h : .slot m ∈ template.pieces)
    (base : Nat) : '\\' ∈ (template.regexText base).toList := by
  rw [Template.regexText, String.toList_ofList]
  refine List.mem_flatMap.2 ⟨_, h, ?_⟩
  rw [slot_regexChars]
  simp [captureChars]

theorem length_le_count_intercalate {c : Char} {parts : List (List Char)} (sep : List Char)
    (h : ∀ part ∈ parts, c ∈ part) : parts.length ≤ (List.intercalate sep parts).count c := by
  induction parts with
  | nil => simp
  | cons part parts ih =>
    have hfirst : 0 < part.count c := List.count_pos_iff.2 (h part (by simp))
    have hrest := ih fun part hpart => h part (List.mem_cons_of_mem _ hpart)
    cases parts with
    | nil => simpa using hfirst
    | cons next parts =>
      rw [List.intercalate_cons_cons, List.count_append, List.count_append]
      simp only [List.length_cons] at hrest ⊢
      omega

/-- Templates that name an object fill the room of an engine one by one. -/
theorem length_le_room {verb : Verb} {templates : List Template}
    (h : ∀ template ∈ templates, ∃ m, .slot m ∈ template.pieces) :
    44200 * templates.length ≤ Regex.Engine.room (regexText ⟨verb, templates⟩).toList := by
  let bodies := templates.mapIdx fun i t => t.regexText (base verb i)
  have hbodies : ∀ body ∈ bodies.map String.toList, '\\' ∈ body := by
    simp only [bodies, List.mem_map, List.mem_mapIdx]
    rintro _ ⟨_, ⟨i, hi, rfl⟩, rfl⟩
    obtain ⟨m, hm⟩ := h templates[i] (List.getElem_mem hi)
    exact backslash_mem_regexText hm _
  have hcount := length_le_count_intercalate ['|'] hbodies
  have hlength : (bodies.map String.toList).length = templates.length := by simp [bodies]
  have htext : (regexText ⟨verb, templates⟩).toList
      = "^(?:".toList ++ List.intercalate ['|'] (bodies.map String.toList) ++ ")$".toList := by
    simp [regexText, bodies, String.toList_intercalate]
  rw [Regex.Engine.room, htext, List.count_append, List.count_append]
  omega

/-- However much room an engine allows, it refuses enough templates that name an object. -/
theorem build_limited {verb : Verb} {texts : List String} {limit : Nat}
    (hvalid : ∀ text ∈ texts, ValidPhrasing verb text) (harity : 0 < verb.arity)
    (hlong : limit < 44200 * texts.length) :
    build verb texts (.limited limit) = .error (.badPattern verb) := by
  obtain ⟨templates, htemplates, hfits⟩ := parseAll_ok hvalid
  have hlength := (readFrom_of_parseAll htemplates).length_eq
  have hslots : ∀ template ∈ templates, ∃ m, .slot m ∈ template.pieces := by
    intro template ht
    refine ⟨.a, List.count_pos_iff.1 ?_⟩
    rw [← count_markers, hfits template ht .a, expected, if_pos (Nat.succ_le_of_lt harity)]
    exact Nat.one_pos
  have hroom : 44200 * templates.length ≤ Regex.Engine.room (regexText ⟨verb, templates⟩).toList :=
    length_le_room hslots
  rw [build_eq htemplates (by rintro rfl; simp_all)]
  refine if_neg ?_
  simp only [Regex.Engine.limited, decide_eq_true_eq]
  omega

theorem match?_isSome_iff {verb : Verb} {texts : List String} {templates : List Template}
    {line : String} (h : ReadFrom verb texts templates) :
    (match? ⟨verb, templates⟩ line).isSome = true ↔ ∃ text ∈ texts, IsExpansion text line := by
  rw [match?, matchFrom?_eq, Option.isSome_map]
  constructor
  · intro hsome
    obtain ⟨⟨k, bindings⟩, hfirst⟩ := Option.isSome_iff_exists.1 hsome
    obtain ⟨before, text, after, rfl, -, -, hexpands, -⟩ := h.exists_first hfirst
    exact ⟨text, by simp, _, hexpands⟩
  · rintro ⟨text, htext, hexpansion⟩
    by_contra hsome
    exact h.not_isExpansion (Option.not_isSome_iff_eq_none.1 hsome) text htext hexpansion

theorem firstReading_of_match? {verb : Verb} {texts : List String} {templates : List Template}
    {line : String} {parameters : List Parameter} (h : ReadFrom verb texts templates)
    (hmatch : match? ⟨verb, templates⟩ line = some parameters) :
    FirstReading verb texts line parameters := by
  rw [match?, matchFrom?_eq] at hmatch
  obtain ⟨⟨k, bindings⟩, hfirst, rfl⟩ := Option.map_eq_some_iff.1 hmatch
  obtain ⟨before, text, after, rfl, hk, hbefore, hexpands, hbound⟩ := h.exists_first hfirst
  obtain ⟨hgroups, hwords⟩ := parameters_eq (base verb k) hbound
  refine ⟨before, text, after, rfl, hbefore, ?_, ?_⟩
  · rw [hgroups, hk, base, Nat.zero_add]
  · rw [hwords]
    exact hexpands

/-- Every non-empty list of templates for a verb makes up a pattern, whose text is a regular
expression. It is built exactly if the engine accepts this expression, and reading a line with it
never fails. What is read off are the captures of the leftmost match that comes first. A line is
read exactly if it is an expansion of one of the templates. It has no parameters if the verb names
no object, and otherwise those of the first of the templates that the line is an expansion of. -/
theorem read_exact {verb : Verb} {texts : List String} (hne : texts ≠ [])
    (hvalid : ∀ text ∈ texts, ValidPhrasing verb text) :
    ∃ pattern, (∀ engine : Regex.Engine, build verb texts engine =
        if engine.accepts pattern.regexText then .ok (some pattern)
        else .error (.badPattern verb)) ∧
      pattern.regexText.toList = pattern.expression.written ∧
      Regex.parse? pattern.regexText = some pattern.expression.plain ∧
      ∀ line, pattern.captures? line
          = (pattern.expression.search line.toList).map (fun way => way.captures.reverse) ∧
        ∃ answer, pattern.read line = .ok answer ∧
          (answer.isSome = true ↔ ∃ text ∈ texts, IsExpansion text line) ∧
          ∀ parameters, answer = some parameters →
            (verb.arity = 0 → parameters = []) ∧
            (0 < verb.arity → FirstReading verb texts line parameters) := by
  obtain ⟨templates, htemplates, -⟩ := parseAll_ok hvalid
  have hread := readFrom_of_parseAll htemplates
  have hformed := hread.wellFormed hne
  refine ⟨⟨verb, templates⟩, build_eq htemplates hformed.templates_ne_nil,
    (written_pattern _).symm, parse?_regexText hformed, fun line =>
    ⟨captures?_eq_search hformed.templates_ne_nil line, _, read_eq hformed.formed line,
      match?_isSome_iff hread, fun parameters hmatch => ?_⟩⟩
  have hreading := firstReading_of_match? hread hmatch
  refine ⟨fun harity => ?_, fun _ => hreading⟩
  obtain ⟨before, text, after, -, -, hgroups, -⟩ := hreading
  simpa [harity, captureNames] using hgroups

/-- Two phrasings of which the second names the objects in the other order. -/
theorem read_exact_useWith : ((["use <A> with <B>", "unlock <B> with [the ]<A>"] ≠ []) ∧
      ∀ text ∈ ["use <A> with <B>", "unlock <B> with [the ]<A>"], ValidPhrasing .useWith text) ∧
    ∃ pattern, (∀ engine : Regex.Engine,
        build .useWith ["use <A> with <B>", "unlock <B> with [the ]<A>"] engine =
          if engine.accepts pattern.regexText then .ok (some pattern)
          else .error (.badPattern .useWith)) ∧
      pattern.regexText.toList = pattern.expression.written ∧
      Regex.parse? pattern.regexText = some pattern.expression.plain ∧
      ∀ line, pattern.captures? line
          = (pattern.expression.search line.toList).map (fun way => way.captures.reverse) ∧
        ∃ answer, pattern.read line = .ok answer ∧
          (answer.isSome = true ↔ ∃ text ∈ ["use <A> with <B>", "unlock <B> with [the ]<A>"],
            IsExpansion text line) ∧
          ∀ parameters, answer = some parameters →
            (Verb.useWith.arity = 0 → parameters = []) ∧
            (0 < Verb.useWith.arity → FirstReading .useWith
              ["use <A> with <B>", "unlock <B> with [the ]<A>"] line parameters) :=
  have hvalid : ∀ text ∈ ["use <A> with <B>", "unlock <B> with [the ]<A>"],
      ValidPhrasing .useWith text := by
    rintro text (_ | ⟨_, _ | ⟨_, ⟨⟩⟩⟩)
    · exact ⟨_, rfl⟩
    · exact ⟨_, rfl⟩
  ⟨⟨by simp, hvalid⟩, read_exact (by simp) hvalid⟩

/-- A thousand phrasings, all of them templates. -/
def thousandPhrasings : List String := List.replicate 1000 "take <A>"

/-- They do not fit into ten mebibytes. -/
theorem thousandPhrasings_refused :
    (thousandPhrasings ≠ [] ∧ ∀ text ∈ thousandPhrasings, ValidPhrasing .take text) ∧
      build .take thousandPhrasings .standard = .error (.badPattern .take) := by
  have hvalid : ∀ text ∈ thousandPhrasings, ValidPhrasing .take text := by
    intro text htext
    obtain rfl := List.eq_of_mem_replicate htext
    exact ⟨_, rfl⟩
  have hlength : thousandPhrasings.length = 1000 := List.length_replicate
  refine ⟨⟨List.ne_nil_of_length_pos (by omega), hvalid⟩, build_limited hvalid Nat.one_pos ?_⟩
  rw [hlength]
  decide

example : (build .useWith ["use <A> with <B>", "unlock <B> with [the ]<A>"]).bind
    (fun pattern => pattern.elim (.ok none) (·.read "unlock door with the key"))
      = .ok (some [⟨"o2", "key"⟩, ⟨"o3", "door"⟩]) := rfl

end Pattern

end Adventure
