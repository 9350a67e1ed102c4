import Adventure.Command.Parse
import Adventure.Proofs.Captures

/-!
# Reading commands does not fail

Where all phrasings are templates for their verbs (`ValidPhrasing`), patterns are built and lines
are read without a failure (`Command.parse_ok`), whatever the cache holds from before, as long as
its patterns are well-formed (`PatternCache.Formed`); reading keeps the cache so.
-/

namespace Adventure

/-- A text that is a template for a verb. -/
def ValidPhrasing (verb : Verb) (text : String) : Prop :=
  ∃ template, Template.parse? verb.arity text = .ok template

namespace Pattern

theorem parseAll_ok {verb : Verb} :
    ∀ {texts : List String}, (∀ t ∈ texts, ValidPhrasing verb t) →
      ∃ templates, parseAll verb texts = .ok templates ∧ ∀ t ∈ templates, t.Fits verb.arity
  | [], _ => ⟨[], rfl, by simp⟩
  | text :: texts, h => by
    obtain ⟨template, htemplate⟩ := h text (by simp)
    obtain ⟨templates, hrest, hfits⟩ := parseAll_ok fun t ht => h t (List.mem_cons_of_mem _ ht)
    refine ⟨template :: templates, by rw [parseAll, htemplate, hrest]; rfl, fun t ht => ?_⟩
    rcases List.mem_cons.1 ht with rfl | ht
    · exact Template.fits_of_parse? htemplate
    · exact hfits t ht

/-- Without a limit of the engine nothing but a bad template keeps a pattern from being built. -/
theorem build_unlimited {verb : Verb} {texts : List String} {templates : List Template}
    (h : parseAll verb texts = .ok templates) :
    build verb texts = .ok (if templates.isEmpty then none else some ⟨verb, templates⟩) := by
  unfold build
  rw [h]
  cases templates <;> rfl

theorem build_ok {verb : Verb} {texts : List String} (h : ∀ t ∈ texts, ValidPhrasing verb t) :
    ∃ pattern, build verb texts = .ok pattern ∧ ∀ p, pattern = some p → p.Formed := by
  obtain ⟨templates, heq, hfits⟩ := parseAll_ok h
  refine ⟨_, build_unlimited heq, ?_⟩
  intro p hp
  split at hp
  · cases hp
  · obtain rfl := Option.some.inj hp
    exact hfits

end Pattern

/-! ## The cache -/

/-- Patterns of a verb that are well-formed. -/
def PatternSet.Formed (set : PatternSet) : Prop :=
  (∀ p, set.builtin = some p → p.Formed) ∧ ∀ p, set.custom = some p → p.Formed

theorem PatternSet.build_ok {verb : Verb} {builtin custom : List String}
    (hbuiltin : ∀ t ∈ builtin, ValidPhrasing verb t)
    (hcustom : ∀ t ∈ custom, ValidPhrasing verb t) :
    ∃ set, PatternSet.build verb builtin custom = .ok set ∧ set.Formed := by
  obtain ⟨own, hown, hownFormed⟩ := Pattern.build_ok hbuiltin
  obtain ⟨added, hadded, haddedFormed⟩ := Pattern.build_ok hcustom
  exact ⟨⟨own, added⟩, by rw [build, hown, hadded]; rfl, hownFormed, haddedFormed⟩

namespace PatternCache

/-- A cache all of whose patterns are well-formed. -/
def Formed (cache : PatternCache) : Prop := ∀ e ∈ cache.entries, e.2.patterns.Formed

theorem formed_empty : Formed {} := List.forall_mem_nil _

theorem mem_of_get? {cache : PatternCache} {verb : Verb} {entry : CachedPatterns}
    (h : cache.get? verb = some entry) : (verb, entry) ∈ cache.entries := by
  obtain ⟨before, after, heq, -⟩ := List.lookup_eq_some_iff.1 h
  exact heq ▸ by simp

theorem mem_store {cache : PatternCache} {verb : Verb} {entry : CachedPatterns}
    {e : Verb × CachedPatterns} (h : e ∈ (cache.store verb entry).entries) :
    e = (verb, entry) ∨ e ∈ cache.entries :=
  (List.mem_cons.1 h).imp_right fun he => (List.mem_filter.1 he).1

theorem Formed.get? {cache : PatternCache} (h : cache.Formed) {verb : Verb} {entry : CachedPatterns}
    (hfound : cache.get? verb = some entry) : entry.patterns.Formed :=
  h _ (mem_of_get? hfound)

theorem Formed.store {cache : PatternCache} (h : cache.Formed) (verb : Verb)
    {entry : CachedPatterns} (hentry : entry.patterns.Formed) :
    (cache.store verb entry).Formed := by
  intro e he
  rcases mem_store he with rfl | he
  · exact hentry
  · exact h e he

theorem patterns_ok {cache : PatternCache} (h : cache.Formed) {verb : Verb}
    {builtin custom : List String} (hbuiltin : ∀ t ∈ builtin, ValidPhrasing verb t)
    (hcustom : ∀ t ∈ custom, ValidPhrasing verb t) :
    ∃ set cache', cache.patterns verb builtin custom = (.ok set, cache') ∧ set.Formed ∧
      cache'.Formed := by
  obtain ⟨set, hset, hformed⟩ := PatternSet.build_ok hbuiltin hcustom
  have hstored : (cache.store verb ⟨builtin, custom, set⟩).Formed := h.store verb hformed
  unfold patterns
  cases hfound : cache.get? verb with
  | none => exact ⟨set, _, by rw [hset], hformed, hstored⟩
  | some entry =>
    by_cases hsame : entry.builtin = builtin ∧ entry.custom = custom
    · exact ⟨entry.patterns, cache, by simp only [if_pos hsame], h.get? hfound, h⟩
    · exact ⟨set, _, by simp only [if_neg hsame, hset], hformed, hstored⟩

end PatternCache

namespace Command

theorem readOff_ok {pattern : Option Pattern} (h : ∀ p, pattern = some p → p.Formed)
    (input : String) : ∃ parameters, readOff pattern input = .ok parameters := by
  cases pattern with
  | none => exact ⟨none, rfl⟩
  | some p => exact ⟨_, Pattern.read_eq (h p rfl) input⟩

theorem ofPatterns?_ok {set : PatternSet} (h : set.Formed) (verb : Verb) (input : String) :
    ∃ command, ofPatterns? verb set input = .ok command := by
  obtain ⟨own, hown⟩ := readOff_ok h.1 input
  obtain ⟨added, hadded⟩ := readOff_ok h.2 input
  rw [ofPatterns?, hown]
  cases own with
  | some parameters => exact ⟨_, rfl⟩
  | none => exact ⟨_, by rw [hadded]; rfl⟩

section
variable {phrasings : Phrasings} {custom : Verb → List String}
  (hphrasings : ∀ verb, ∀ t ∈ phrasings.of verb, ValidPhrasing verb t)
  (hcustom : ∀ verb, ∀ t ∈ custom verb, ValidPhrasing verb t)
include hphrasings hcustom

theorem parseFrom_ok (input : String) :
    ∀ (verbs : List Verb) {cache : PatternCache}, cache.Formed →
      ∃ command cache', parseFrom phrasings custom input verbs cache = (.ok command, cache') ∧
        cache'.Formed
  | [], cache, h => ⟨none, cache, rfl, h⟩
  | verb :: verbs, cache, h => by
    obtain ⟨set, cache', hpatterns, hset, h'⟩ :=
      PatternCache.patterns_ok h (hphrasings verb) (hcustom verb)
    obtain ⟨command, hcommand⟩ := ofPatterns?_ok hset verb input
    rw [parseFrom, hpatterns]
    simp only [hcommand]
    cases command with
    | some command => exact ⟨some command, cache', rfl, h'⟩
    | none => exact parseFrom_ok input verbs h'

/-- Every line is read without a failure. -/
theorem parse_ok (line : String) {cache : PatternCache} (h : cache.Formed) :
    ∃ command cache', parse phrasings custom line cache = (.ok command, cache') ∧
      cache'.Formed := by
  unfold parse
  by_cases hempty : (Text.normalize line).isEmpty = true
  · exact ⟨none, cache, by simp only [if_pos hempty], h⟩
  · simp only [if_neg hempty]
    exact parseFrom_ok hphrasings hcustom _ _ h

end

theorem acceptedBy_ok {command : Command} {phrasings : List String}
    (h : ∀ t ∈ phrasings, ValidPhrasing command.verb t) :
    ∃ accepted, command.acceptedBy phrasings = .ok accepted := by
  obtain ⟨pattern, hpattern, -⟩ := Pattern.build_ok h
  unfold acceptedBy
  split
  · exact ⟨true, rfl⟩
  · exact ⟨_, by rw [hpattern]; rfl⟩

end Command

end Adventure
