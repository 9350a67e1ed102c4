import Mathlib.Data.List.Infix
import Adventure.Proofs.CachedCommands

/-!
# What a cache counts

A cache is asked for patterns again and again, with whatever texts. What it keeps for a verb is what
it was last asked for and could build (`PatternCache.asked?_served`), so patterns are built anew
exactly if they are asked for with other texts than these. An attempt to build patterns that fails
leaves everything in its place, but not the count: as long as nothing has been built for the verb,
failed attempts are counted too (`PatternCache.builds_served`).
-/

namespace Adventure

/-- A request for the patterns of a verb. -/
structure PatternCall where
  verb : Verb
  builtin : List String
  custom : List String
  deriving DecidableEq

namespace PatternCall

/-- What the request comes to without a cache. -/
def build (call : PatternCall) : Except Failure PatternSet :=
  PatternSet.build call.verb call.builtin call.custom

/-- What a cache answers. -/
def answer (call : PatternCall) (cache : PatternCache) : Except Failure PatternSet :=
  (cache.patterns call.verb call.builtin call.custom).1

/-- The request as a use of a cache. -/
def use (call : PatternCall) : CacheCall := .patterns call.verb call.builtin call.custom

/-- The last of the requests for a verb that could be built. -/
def lastBuilt? (verb : Verb) (calls : List PatternCall) : Option PatternCall :=
  calls.reverse.find? fun call => decide (call.verb = verb) && call.build.isOk

/-- The patterns can be built and are not those that were built last for the verb. -/
def Renews (before : List PatternCall) (call : PatternCall) : Bool :=
  call.build.isOk && decide (lastBuilt? call.verb before ≠ some call)

/-- The patterns cannot be built and none have been built for the verb before. -/
def Stumbles (before : List PatternCall) (call : PatternCall) : Bool :=
  !call.build.isOk && (lastBuilt? call.verb before).isNone

/-- How many requests satisfy `p`, which depends on the requests before as well. -/
def countAlong (p : List PatternCall → PatternCall → Bool) (calls : List PatternCall) : Nat :=
  (calls.inits.zip calls).countP fun x => p x.1 x.2

theorem lastBuilt?_append_singleton (verb : Verb) (calls : List PatternCall) (call : PatternCall) :
    lastBuilt? verb (calls ++ [call]) =
      if call.verb = verb ∧ call.build.isOk then some call else lastBuilt? verb calls := by
  simp only [lastBuilt?, List.reverse_append, List.reverse_singleton, List.singleton_append,
    List.find?_cons]
  by_cases h : call.verb = verb ∧ call.build.isOk = true
  · rw [if_pos h]
    simp [h.1, h.2]
  · rw [if_neg h]
    split
    · rename_i heq
      simp only [Bool.and_eq_true, decide_eq_true_eq] at heq
      exact absurd heq h
    · rfl

theorem countAlong_append_singleton (call : PatternCall) :
    ∀ (p : List PatternCall → PatternCall → Bool) (calls : List PatternCall),
      countAlong p (calls ++ [call]) = countAlong p calls + (p calls call).toNat
  | p, [] => by cases h : p [] call <;> simp [countAlong, h]
  | p, first :: calls => by
    have hcons : ∀ rest, countAlong p (first :: rest)
        = countAlong (fun before => p (first :: before)) rest + (p [] first).toNat := by
      intro rest
      simp only [countAlong, List.inits, List.zip_cons_cons, List.countP_cons, List.zip_map_left,
        List.countP_map]
      cases p [] first <;> rfl
    rw [List.cons_append, hcons, hcons, countAlong_append_singleton call _ calls]
    omega

end PatternCall

namespace PatternCache

open PatternCall

/-! ## Entries -/

theorem lookup_filter_ne {verb verb' : Verb} (hne : verb' ≠ verb) :
    ∀ entries : List (Verb × CachedPatterns),
      (entries.filter (·.1 ≠ verb)).lookup verb' = entries.lookup verb'
  | [] => rfl
  | (key, entry) :: entries => by
    have ih := lookup_filter_ne hne entries
    by_cases hkey : key = verb
    · have hne' : (verb' == key) = false := by simp [hkey, hne]
      rw [List.filter_cons_of_neg (by simp [hkey]), ih, List.lookup_cons, hne']
    · rw [List.filter_cons_of_pos (by simp [hkey]), List.lookup_cons, List.lookup_cons, ih]

theorem get?_store (cache : PatternCache) (verb : Verb) (entry : CachedPatterns) (verb' : Verb) :
    (cache.store verb entry).get? verb' =
      if verb' = verb then some entry else cache.get? verb' := by
  rw [get?, store, List.lookup_cons]
  by_cases h : verb' = verb
  · simp [h]
  · rw [lookup_filter_ne h, if_neg h, beq_false_of_ne h]
    rfl

/-- The request that the patterns kept for a verb were built for. -/
def asked? (cache : PatternCache) (verb : Verb) : Option PatternCall :=
  (cache.get? verb).map fun entry => ⟨verb, entry.builtin, entry.custom⟩

/-- What becomes of a request: it fails, the patterns are there already, or they are built. -/
theorem Faithful.run_cases {cache : PatternCache} (h : cache.Faithful) (call : PatternCall) :
    (∃ failure, call.build = .error failure ∧ CacheCall.run cache call.use =
      { cache with builds := cache.builds + (cache.asked? call.verb).isNone.toNat }) ∨
    (∃ patterns, call.build = .ok patterns ∧ cache.asked? call.verb = some call ∧
      CacheCall.run cache call.use = cache) ∨
    ∃ patterns, call.build = .ok patterns ∧ cache.asked? call.verb ≠ some call ∧
      CacheCall.run cache call.use
        = cache.store call.verb ⟨call.builtin, call.custom, patterns⟩ := by
  obtain ⟨verb, builtin, custom⟩ := call
  simp only [PatternCall.build, use, CacheCall.run, PatternCache.patterns, asked?]
  cases hfound : cache.get? verb with
  | none =>
    cases hbuild : PatternSet.build verb builtin custom with
    | error failure => exact .inl ⟨failure, rfl, rfl⟩
    | ok patterns => exact .inr (.inr ⟨patterns, rfl, nofun, rfl⟩)
  | some entry =>
    have hentry := h _ (mem_of_get? hfound)
    by_cases hsame : entry.builtin = builtin ∧ entry.custom = custom
    · obtain ⟨rfl, rfl⟩ := hsame
      exact .inr (.inl ⟨entry.patterns, hentry, rfl, by simp⟩)
    · have hother : (⟨verb, entry.builtin, entry.custom⟩ : PatternCall) ≠ ⟨verb, builtin, custom⟩ :=
        fun heq => hsame (by simpa using heq)
      simp only [if_neg hsame]
      cases hbuild : PatternSet.build verb builtin custom with
      | error failure => exact .inl ⟨failure, rfl, rfl⟩
      | ok patterns => exact .inr (.inr ⟨patterns, rfl, by simpa using hsame, rfl⟩)

/-! ## Series of requests -/

/-- The cache after requests, each with texts of its own. -/
def served (calls : List PatternCall) : PatternCache := after (calls.map PatternCall.use)

theorem served_append_singleton (calls : List PatternCall) (call : PatternCall) :
    served (calls ++ [call]) = CacheCall.run (served calls) call.use := by
  simp [served, after]

theorem faithful_served (calls : List PatternCall) : (served calls).Faithful := faithful_after _

/-- Patterns are kept for the last request that could be built. -/
theorem asked?_served (verb : Verb) (calls : List PatternCall) :
    (served calls).asked? verb = lastBuilt? verb calls := by
  induction calls using List.reverseRecOn with
  | nil => rfl
  | append_singleton calls call ih =>
    rw [served_append_singleton, lastBuilt?_append_singleton, ← ih]
    rcases (faithful_served calls).run_cases call with ⟨failure, hbuild, hrun⟩ |
      ⟨patterns, hbuild, hasked, hrun⟩ | ⟨patterns, hbuild, -, hrun⟩ <;> rw [hrun, hbuild]
    · simp [Except.isOk, Except.toBool, asked?, get?]
    · by_cases hverb : call.verb = verb
      · subst hverb
        simp [Except.isOk, Except.toBool, hasked]
      · simp [hverb]
    · by_cases hverb : call.verb = verb
      · subst hverb
        simp [Except.isOk, Except.toBool, asked?, get?_store]
      · simp [hverb, asked?, get?_store, Ne.symm hverb]

/-- The builds are the requests that renew what is kept, and those that fail for a verb for which
nothing is kept yet. -/
theorem builds_served (calls : List PatternCall) :
    (served calls).builds = countAlong Renews calls + countAlong Stumbles calls := by
  induction calls using List.reverseRecOn with
  | nil => rfl
  | append_singleton calls call ih =>
    rw [served_append_singleton, countAlong_append_singleton, countAlong_append_singleton, Renews,
      Stumbles, ← asked?_served]
    rcases (faithful_served calls).run_cases call with ⟨failure, hbuild, hrun⟩ |
      ⟨patterns, hbuild, hasked, hrun⟩ | ⟨patterns, hbuild, hasked, hrun⟩ <;> rw [hrun, hbuild]
    · simp [Except.isOk, Except.toBool, ih, Nat.add_assoc]
    · simp [Except.isOk, Except.toBool, ih, hasked]
    · simp [Except.isOk, Except.toBool, ih, hasked, store]
      omega

theorem lastBuilt?_isNone (verb : Verb) (calls : List PatternCall) :
    (lastBuilt? verb calls).isNone = true ↔
      ¬ ∃ earlier ∈ calls, earlier.verb = verb ∧ earlier.build.isOk = true := by
  simp [lastBuilt?]

/-- A cache answers what would be built. Where this fails everything is kept as it is, and the count
is as well if patterns of the verb have been built before; if not, the failure counts. So the builds
are the successful requests for other texts than those of the last successful request for the verb,
and besides the failed requests for verbs without a successful one. -/
theorem counts_exact (calls : List PatternCall) :
    (∀ call : PatternCall, call.answer (served calls) = call.build ∧
      (call.build.isOk = false →
        (served (calls ++ [call])).entries = (served calls).entries ∧
        ((served (calls ++ [call])).builds = (served calls).builds ↔
          ∃ earlier ∈ calls, earlier.verb = call.verb ∧ earlier.build.isOk = true) ∧
        (served (calls ++ [call])).builds ≤ (served calls).builds + 1)) ∧
    (served calls).builds = countAlong Renews calls + countAlong Stumbles calls := by
  refine ⟨fun call => ⟨?_, fun hfails => ?_⟩, builds_served calls⟩
  · exact ((faithful_served calls).patterns call.verb call.builtin call.custom).1
  · rcases (faithful_served calls).run_cases call with ⟨failure, -, hrun⟩ |
      ⟨patterns, hbuild, -⟩ | ⟨patterns, hbuild, -⟩
    · rw [← not_iff_not (b := ∃ _, _), ← lastBuilt?_isNone, ← asked?_served,
        served_append_singleton, hrun]
      cases ((served calls).asked? call.verb).isNone <;> simp
    · rw [hbuild] at hfails
      cases hfails
    · rw [hbuild] at hfails
      cases hfails

/-- The first attempt to build patterns counts although nothing has been built. -/
theorem counts_failure :
    (PatternCall.answer ⟨.take, ["take"], []⟩ (served [])).isOk = false ∧
    (served []).builds = 0 ∧ (served [⟨.take, ["take"], []⟩]).builds = 1 ∧
    countAlong Renews [⟨.take, ["take"], []⟩] = 0 := by
  decide +kernel

end PatternCache

end Adventure
