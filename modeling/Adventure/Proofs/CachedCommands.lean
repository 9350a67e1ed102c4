import Adventure.Play.Handlers
import Adventure.Proofs.Commands

/-!
# The cache does not show

What a line means depends on the phrasings of the world alone (`Command.meaning`): it is tried on
the verbs in order, on patterns that are built for the purpose. Reading a line with a cache comes
to the same whatever the cache has been used for before, also where phrasings have changed in the
meantime or an attempt to build patterns has failed (`Act.parse_after`).

A cache keeps a promise rather than patterns for some phrasings: whatever it keeps would be built
from the texts that it keeps along with it (`PatternCache.Faithful`). Patterns are handed out only
for these texts, so it does not matter which texts they are.
-/

namespace Adventure

/-! ## What a line means -/

namespace Command

/-- The command that a line in normal form is for a verb. The verb's own phrasings are tried before
other ones; the patterns of both are built first. -/
def ofPhrasings? (verb : Verb) (builtin custom : List String) (input : String) :
    Except Failure (Option Command) := do
  let own ← Pattern.build verb builtin
  let added ← Pattern.build verb custom
  match ← readOff own input with
  | some parameters => return some ⟨verb, true, input, parameters⟩
  | none =>
    match ← readOff added input with
    | some parameters => return some ⟨verb, false, input, parameters⟩
    | none => return none

/-- The command that a line in normal form is for the first of the verbs that it is one for. -/
def meaningFrom (phrasings : Phrasings) (custom : Verb → List String) (input : String) :
    List Verb → Except Failure (Option Command)
  | [] => .ok none
  | verb :: verbs => do
    match ← ofPhrasings? verb (phrasings.of verb) (custom verb) input with
    | some command => return some command
    | none => meaningFrom phrasings custom input verbs

/-- The command that a line is, if it is one. `custom` are the phrasings that objects add to a
verb. -/
def meaning (phrasings : Phrasings) (custom : Verb → List String) (line : String) :
    Except Failure (Option Command) :=
  let input := Text.normalize line
  if input.isEmpty then .ok none else meaningFrom phrasings custom input Verb.inOrder

/-- Patterns and phrasings make a line the same command. -/
theorem ofPhrasings?_eq (verb : Verb) (builtin custom : List String) (input : String) :
    ofPhrasings? verb builtin custom input
      = (PatternSet.build verb builtin custom).bind (ofPatterns? verb · input) := by
  rw [ofPhrasings?, PatternSet.build]
  cases Pattern.build verb builtin with
  | error failure => rfl
  | ok own =>
    cases Pattern.build verb custom with
    | error failure => rfl
    | ok added =>
      change _ = ofPatterns? verb ⟨own, added⟩ input
      rw [ofPatterns?]
      refine congrArg (readOff own input).bind (funext fun found => ?_)
      cases found with
      | some parameters => rfl
      | none =>
        refine congrArg (readOff added input).bind (funext fun found => ?_)
        cases found <;> rfl

end Command

/-! ## Faithful caches -/

namespace PatternCache

/-- A cache whose patterns are those that would be built from the texts kept with them. -/
def Faithful (cache : PatternCache) : Prop :=
  ∀ e ∈ cache.entries, PatternSet.build e.1 e.2.builtin e.2.custom = .ok e.2.patterns

theorem faithful_empty : Faithful {} := List.forall_mem_nil _

theorem Faithful.store {cache : PatternCache} (h : cache.Faithful) {verb : Verb}
    {builtin custom : List String} {patterns : PatternSet}
    (hbuild : PatternSet.build verb builtin custom = .ok patterns) :
    (cache.store verb ⟨builtin, custom, patterns⟩).Faithful := by
  intro e he
  rcases mem_store he with rfl | he
  · exact hbuild
  · exact h e he

/-- A call yields what would be built, and leaves a faithful cache behind even where it fails. -/
theorem Faithful.patterns {cache : PatternCache} (h : cache.Faithful) (verb : Verb)
    (builtin custom : List String) :
    (cache.patterns verb builtin custom).1 = PatternSet.build verb builtin custom ∧
      (cache.patterns verb builtin custom).2.Faithful := by
  unfold PatternCache.patterns
  cases hfound : cache.get? verb with
  | none =>
    cases hbuild : PatternSet.build verb builtin custom with
    | ok patterns => exact ⟨rfl, h.store hbuild⟩
    | error failure => exact ⟨rfl, h⟩
  | some entry =>
    have hentry := h _ (mem_of_get? hfound)
    -- An entry that a failed build left behind still keeps its promise for its own texts.
    by_cases hsame : entry.builtin = builtin ∧ entry.custom = custom
    · obtain ⟨rfl, rfl⟩ := hsame
      simp only [and_self, if_pos]
      exact ⟨hentry.symm, h⟩
    · simp only [if_neg hsame]
      cases hbuild : PatternSet.build verb builtin custom with
      | ok patterns => exact ⟨rfl, h.store hbuild⟩
      | error failure => exact ⟨rfl, h⟩

end PatternCache

namespace Command

open PatternCache

variable {phrasings : Phrasings} {custom : Verb → List String}

/-- Trying verbs with a faithful cache comes to what trying them without one does. -/
theorem parseFrom_eq (input : String) : ∀ (verbs : List Verb) {cache : PatternCache},
    cache.Faithful →
      (parseFrom phrasings custom input verbs cache).1 = meaningFrom phrasings custom input verbs ∧
        (parseFrom phrasings custom input verbs cache).2.Faithful
  | [], cache, h => ⟨rfl, h⟩
  | verb :: verbs, cache, h => by
    obtain ⟨hpatterns, hcache⟩ := h.patterns verb (phrasings.of verb) (custom verb)
    rw [parseFrom, meaningFrom, ofPhrasings?_eq, ← hpatterns]
    generalize cache.patterns verb (phrasings.of verb) (custom verb) = called at hcache ⊢
    obtain ⟨built, cache'⟩ := called
    cases built with
    | error failure => exact ⟨rfl, hcache⟩
    | ok patterns =>
      change _ = (ofPatterns? verb patterns input).bind _ ∧ _
      cases hcommand : ofPatterns? verb patterns input with
      | error failure =>
        simp only [hcommand]
        exact ⟨rfl, hcache⟩
      | ok command =>
        simp only [hcommand]
        cases command with
        | some command => exact ⟨rfl, hcache⟩
        | none => exact parseFrom_eq input verbs hcache

/-- Reading a line with a faithful cache comes to what the line means without one. -/
theorem parse_eq (line : String) {cache : PatternCache} (h : cache.Faithful) :
    (parse phrasings custom line cache).1 = meaning phrasings custom line ∧
      (parse phrasings custom line cache).2.Faithful := by
  rw [parse, meaning]
  generalize Text.normalize line = input
  by_cases hempty : input.isEmpty = true
  · rw [if_pos hempty, if_pos hempty]
    exact ⟨rfl, h⟩
  · rw [if_neg hempty, if_neg hempty]
    exact parseFrom_eq _ _ h

end Command

/-! ## Caches in use -/

/-- A use of a cache: patterns are asked for, or a line is read. -/
inductive CacheCall
  | patterns (verb : Verb) (builtin custom : List String)
  | parse (phrasings : Phrasings) (custom : Verb → List String) (line : String)

/-- The cache after a call, whether or not the call has failed. -/
def CacheCall.run (cache : PatternCache) : CacheCall → PatternCache
  | patterns verb builtin custom => (cache.patterns verb builtin custom).2
  | parse phrasings custom line => (Command.parse phrasings custom line cache).2

namespace PatternCache

/-- The cache that calls leave behind, each with phrasings of its own. -/
def after (calls : List CacheCall) : PatternCache := calls.foldl CacheCall.run {}

theorem Faithful.run {cache : PatternCache} (h : cache.Faithful) (call : CacheCall) :
    (CacheCall.run cache call).Faithful := by
  cases call with
  | patterns verb builtin custom => exact (h.patterns verb builtin custom).2
  | parse phrasings custom line => exact (Command.parse_eq line h).2

theorem faithful_foldl (calls : List CacheCall) {cache : PatternCache} (h : cache.Faithful) :
    (calls.foldl CacheCall.run cache).Faithful := by
  induction calls generalizing cache with
  | nil => exact h
  | cons call calls ih => exact ih (h.run call)

theorem faithful_after (calls : List CacheCall) : (after calls).Faithful :=
  faithful_foldl calls faithful_empty

end PatternCache

/-- A line is the command that it means in the world of the play, whatever calls the cache of the
play comes from. -/
theorem Act.parse_after (calls : List CacheCall) (p : Play) (line : String) :
    (Act.parse line { p with cache := .after calls }).1
      = Command.meaning p.world.game.phrasings p.world.customPhrasings line := by
  have hfaithful := PatternCache.faithful_after calls
  simp only [Act.parse]
  exact (Command.parse_eq line hfaithful).1

end Adventure
