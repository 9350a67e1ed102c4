import Adventure.Command.Pattern

/-!
# Cached patterns

The patterns of a verb are kept together with the texts they were built from and built again only
when these have changed. The cache counts its builds: the first attempt for a verb counts in any
case, a later one only if it succeeds. What a failed attempt would have replaced stays. The engine
is one without limits here and wherever a game is played, so a build fails only for a text that is
no template.
-/

namespace Adventure

/-- The patterns of a verb: the game's own phrasings and those that objects add (`PatternSet`). -/
structure PatternSet where
  builtin : Option Pattern
  custom : Option Pattern
  deriving DecidableEq

/-- The patterns of a verb for given texts (`CachedPatterns::build`). -/
def PatternSet.build (verb : Verb) (builtin custom : List String) : Except Failure PatternSet := do
  let own ← Pattern.build verb builtin
  let added ← Pattern.build verb custom
  return ⟨own, added⟩

/-- Patterns with the texts they were built from (`CachedPatterns`). -/
structure CachedPatterns where
  builtin : List String
  custom : List String
  patterns : PatternSet
  deriving DecidableEq

/-- The patterns that have been built, by verb, and the number of builds (`PatternCache`). -/
structure PatternCache where
  entries : List (Verb × CachedPatterns) := []
  builds : Nat := 0
  deriving DecidableEq

namespace PatternCache

/-- The patterns kept for a verb. -/
def get? (cache : PatternCache) (verb : Verb) : Option CachedPatterns := cache.entries.lookup verb

/-- Keeps patterns for a verb in the place of those kept before and counts the build. -/
def store (cache : PatternCache) (verb : Verb) (entry : CachedPatterns) : PatternCache :=
  ⟨(verb, entry) :: cache.entries.filter (·.1 ≠ verb), cache.builds + 1⟩

/-- The patterns of a verb for the texts as they are now, and the cache after the call
(`PatternCache::patterns`). -/
def patterns (cache : PatternCache) (verb : Verb) (builtin custom : List String) :
    Except Failure PatternSet × PatternCache :=
  match cache.get? verb with
  | some entry =>
    if entry.builtin = builtin ∧ entry.custom = custom then (.ok entry.patterns, cache)
    else match PatternSet.build verb builtin custom with
      | .ok patterns => (.ok patterns, cache.store verb ⟨builtin, custom, patterns⟩)
      | .error failure => (.error failure, cache)
  | none =>
    match PatternSet.build verb builtin custom with
    | .ok patterns => (.ok patterns, cache.store verb ⟨builtin, custom, patterns⟩)
    | .error failure => (.error failure, { cache with builds := cache.builds + 1 })

end PatternCache

end Adventure
