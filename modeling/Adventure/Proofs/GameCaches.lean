import Mathlib.Data.Finset.Card
import Mathlib.Data.Finset.Insert
import Adventure.Proofs.CacheCounts
import Adventure.Proofs.CustomPhrasings
import Adventure.Proofs.SafeActs

/-!
# The cache in a game

In a game that has been loaded all patterns can be built, and their texts stay the same whatever
happens. So patterns of a verb are built when a line is tried on the verb for the first time and
never again. Which verbs a line is tried on does not depend on the cache (`Command.tried`). The
cache is always the one that the requests for the verbs tried so far leave behind
(`Session.cache_foldl`), and it has counted each of these verbs once (`Session.builds_of_load`).
-/

namespace Adventure

open Steps

/-! ## Verbs that are tried -/

namespace Command

variable (phrasings : Phrasings) (custom : Verb → List String)

/-- The request for patterns when a line is tried on a verb. -/
def ask (verb : Verb) : PatternCall := ⟨verb, phrasings.of verb, custom verb⟩

/-- The verbs that a line in normal form is tried on: those up to the first that it is a command for
or that makes it fail. -/
def triedFrom (input : String) : List Verb → List Verb
  | [] => []
  | verb :: verbs =>
    verb :: match ofPhrasings? verb (phrasings.of verb) (custom verb) input with
      | .ok none => triedFrom input verbs
      | _ => []

/-- The verbs that a line is tried on. -/
def tried (line : String) : List Verb :=
  let input := Text.normalize line
  if input.isEmpty then [] else triedFrom phrasings custom input Verb.inOrder

open PatternCache

variable {phrasings custom}

/-- Trying verbs makes one request for each of them. -/
theorem parseFrom_served (input : String) : ∀ (verbs : List Verb) (calls : List PatternCall),
    (parseFrom phrasings custom input verbs (served calls)).2
      = served (calls ++ (triedFrom phrasings custom input verbs).map (ask phrasings custom))
  | [], calls => by simp [parseFrom, triedFrom]
  | verb :: verbs, calls => by
    have hrest := parseFrom_served input verbs (calls ++ [ask phrasings custom verb])
    have hnext := served_append_singleton calls (ask phrasings custom verb)
    have hanswer := ((faithful_served calls).patterns verb (phrasings.of verb) (custom verb)).1
    simp only [CacheCall.run, PatternCall.use, ask] at hnext
    rw [parseFrom, triedFrom, ofPhrasings?_eq, ← hanswer]
    generalize (served calls).patterns verb (phrasings.of verb) (custom verb) = called at hnext ⊢
    obtain ⟨built, cache⟩ := called
    obtain rfl := hnext
    cases built with
    | error failure => rfl
    | ok patterns =>
      simp only [Except.bind]
      cases hcommand : ofPatterns? verb patterns input with
      | error failure => rfl
      | ok command =>
        cases command with
        | some command => rfl
        | none => simpa [ask] using hrest

theorem parse_served (line : String) (calls : List PatternCall) :
    (parse phrasings custom line (served calls)).2
      = served (calls ++ (tried phrasings custom line).map (ask phrasings custom)) := by
  rw [parse, tried]
  split
  · simp
  · exact parseFrom_served _ _ _

end Command

/-! ## Requests for the same texts -/

namespace PatternCache

open PatternCall

section

variable {ask : Verb → PatternCall} (hverb : ∀ verb, (ask verb).verb = verb)
  (hok : ∀ verb, (ask verb).build.isOk = true)
include hverb hok

theorem lastBuilt?_map (verb : Verb) (verbs : List Verb) :
    lastBuilt? verb (verbs.map ask) = if verb ∈ verbs then some (ask verb) else none := by
  induction verbs using List.reverseRecOn with
  | nil => rfl
  | append_singleton verbs last ih =>
    rw [List.map_append, List.map_singleton, lastBuilt?_append_singleton, ih, hverb]
    by_cases h : last = verb
    · subst h
      simp [hok]
    · simp [h, Ne.symm h]

/-- The patterns of a verb are built when they are asked for the first time. -/
theorem renews_map (verb : Verb) (before : List Verb) :
    Renews (before.map ask) (ask verb) = true ↔ verb ∉ before := by
  rw [Renews, hok, hverb, lastBuilt?_map hverb hok]
  by_cases h : verb ∈ before <;> simp [h]

theorem countAlong_renews_map (verbs : List Verb) :
    countAlong Renews (verbs.map ask) = verbs.toFinset.card := by
  induction verbs using List.reverseRecOn with
  | nil => rfl
  | append_singleton verbs last ih =>
    rw [List.map_append, List.map_singleton, countAlong_append_singleton, ih,
      List.toFinset_append, List.toFinset_cons, List.toFinset_nil, Finset.union_insert,
      Finset.union_empty]
    by_cases hlast : last ∈ verbs
    · have hnot : Renews (verbs.map ask) (ask last) = false := by
        rw [← Bool.not_eq_true, renews_map hverb hok, not_not]
        exact hlast
      rw [hnot, Finset.insert_eq_of_mem (List.mem_toFinset.2 hlast)]
      rfl
    · rw [(renews_map hverb hok last verbs).2 hlast,
        Finset.card_insert_of_notMem fun h => hlast (List.mem_toFinset.1 h)]
      rfl

omit hverb in
theorem countAlong_stumbles_map (verbs : List Verb) : countAlong Stumbles (verbs.map ask) = 0 := by
  induction verbs using List.reverseRecOn with
  | nil => rfl
  | append_singleton verbs last ih =>
    rw [List.map_append, List.map_singleton, countAlong_append_singleton, ih, Stumbles, hok]
    rfl

/-- Each verb that has been asked for counts once. -/
theorem builds_served_map (verbs : List Verb) :
    (served (verbs.map ask)).builds = verbs.toFinset.card := by
  rw [builds_served, countAlong_renews_map hverb hok, countAlong_stumbles_map hok, Nat.add_zero]

end

end PatternCache

/-! ## Sessions -/

/-- The request for patterns of a verb in a world. -/
def World.ask (w : World) : Verb → PatternCall := Command.ask w.game.phrasings w.customPhrasings

/-- Phrasings are part of the skeleton, so the requests are the same throughout a game. -/
theorem World.ask_of_sameSkeleton {w w' : World} (h : SameSkeleton w w') : w'.ask = w.ask := by
  have hgame : w'.game = w.game := congrArg Skeleton.game h
  have hcustom : w'.customPhrasings = w.customPhrasings := by
    funext verb
    rw [customPhrasings, customPhrasings, phrasingSources_of_sameSkeleton h]
  rw [ask, ask, hgame, hcustom]

/-- The patterns of a game that has been loaded can be built. -/
theorem World.isOk_ask {s : Story} {w : World} (hload : load s = .ok w) (verb : Verb) :
    (w.ask verb).build.isOk = true := by
  have hloaded := loaded_of_load hload
  have hsources : ∀ source ∈ w.phrasingSources verb, Phrased verb source.2 :=
    phrased_sources hload .refl
  have hcustom : ∀ text ∈ w.customPhrasings verb, ValidPhrasing verb text := by
    intro text htext
    obtain ⟨source, hsource, htext⟩ := List.mem_flatMap.1 ((Text.mem_sortedSet ..).1 htext)
    exact hsources source hsource text htext
  have hgame : w.game = (ofStory s).game := congrArg Skeleton.game hloaded.keeps.skeleton
  have hown : ∀ text ∈ w.game.phrasings.of verb, ValidPhrasing verb text := by
    rw [hgame]
    exact (authoringFaults_eq_nil.1 hloaded.authoring).1.own verb
  obtain ⟨patterns, hbuild, -⟩ := PatternSet.build_ok hown hcustom
  rw [show (w.ask verb).build = .ok patterns from hbuild]
  rfl

namespace Act

variable {α β : Type}

theorem Uncached.cache_eq {m : Act α} (h : Uncached m) (p : Play) : (m p).2.cache = p.cache :=
  congrArg (·.2.cache) (h p p.cache)

theorem cache_bind {m : Act α} {f : α → Act β} (hf : ∀ a, Uncached (f a)) (p : Play) :
    ((m >>= f) p).2.cache = (m p).2.cache := by
  rcases hm : m p with ⟨failure | a, p'⟩
  · rw [bind_of_error hm]
  · rw [bind_of_ok hm]
    exact (hf a).cache_eq p'

theorem cache_parse (line : String) (p : Play) : (parse line p).2.cache =
    (Command.parse p.world.game.phrasings p.world.customPhrasings line p.cache).2 := by
  simp only [parse]

theorem cache_execute (line : String) (p : Play) :
    (execute line p).2.cache = (parse line p).2.cache := by
  unfold execute
  rw [cache_bind]
  intro command
  cases command with
  | none =>
    have hmade : Made False False False (texts : Act Texts) := made_texts
    exact hmade.uncached.bind fun _ => (uncached_push _).bind fun _ => .pure _
  | some command =>
    have hmade : Made True False False (carryOut command) := made_carryOut trivial command
    exact hmade.uncached

theorem uncached_hear (d : Dialogue) (input : Input) : Uncached (d.hear input) := by
  have hmade : Made True True False (d.answer input) := d.made_answer input
  have hlog : Uncached (log (.read .choice input)) := fun _ _ => rfl
  exact hlog.bind fun _ => hmade.uncached

end Act

namespace Session

open Act PatternCache

theorem uncached_finishCommand : Uncached finishCommand := by
  have hmade : Made False False False (display : Act Unit) := .display
  refine hmade.uncached.bind fun _ => (uncached_tell _).bind fun _ => ?_
  exact fun _ _ => rfl

theorem uncached_continueCommand (dialogue : Option Dialogue) :
    Uncached (continueCommand dialogue) := by
  cases dialogue with
  | none => exact uncached_finishCommand
  | some d => exact .pure _

/-- The verbs that are tried when the player sends something. -/
def consults (s : Session) (input : Input) : List Verb :=
  match s.phase, input with
  | .command, .line line =>
    if line.toList.all Unicode.isWhitespace then []
    else Command.tried s.play.world.game.phrasings s.play.world.customPhrasings line
  | _, _ => []

/-- The verbs that are tried in the course of a session. -/
def consulted : Session → List Input → List Verb
  | _, [] => []
  | s, input :: inputs => s.consults input ++ (s.step input).consulted inputs

theorem cache_takeCommand (input : Input) (p : Play) {calls : List PatternCall}
    (h : p.cache = served calls) :
    (takeCommand input p).2.cache
      = served (calls ++ (consults ⟨p, .command⟩ input).map p.world.ask) := by
  have hsame {m : Act Phase} (hm : Uncached m) :
      (m p).2.cache = served (calls ++ ([] : List Verb).map p.world.ask) := by
    rw [hm.cache_eq, h, List.map_nil, List.append_nil]
  cases input with
  | broken text =>
    exact hsame fun _ _ => rfl
  | ended =>
    have hmade : Made False False False exit := made_exit
    refine hsame (hmade.uncached.bind fun _ => ?_)
    exact Uncached.bind (fun _ _ => rfl) fun _ => (uncached_tell _).bind fun _ => .pure _
  | interrupt =>
    exact hsame fun _ _ => rfl
  | line line =>
    unfold takeCommand consults
    dsimp only
    split
    · exact hsame (.pure _)
    · rw [cache_bind uncached_continueCommand, cache_execute, cache_parse, h,
        Command.parse_served]
      rfl

/-- What the player sends leads to a request for each verb that is tried. -/
theorem cache_step (s : Session) (input : Input) {calls : List PatternCall}
    (h : s.play.cache = served calls) :
    (s.step input).play.cache
      = served (calls ++ (s.consults input).map s.play.world.ask) := by
  obtain ⟨p, _ | d | failure⟩ := s
  · rw [step_eq, play_ofAct]
    exact cache_takeCommand input { p with log := .read .command input :: p.log } h
  · have hact : Uncached (takeInput input (.choice d)) :=
      (uncached_hear d input).bind uncached_continueCommand
    rw [step_eq, play_ofAct, hact.cache_eq]
    exact h.trans (by simp [consults])
  · exact h.trans (by simp [consults])

theorem cache_foldl {w : World} (inputs : List Input) : ∀ (s : Session) {calls : List PatternCall},
    World.SameSkeleton w s.play.world → s.play.cache = served calls →
      (inputs.foldl step s).play.cache = served (calls ++ (s.consulted inputs).map w.ask) := by
  induction inputs with
  | nil => intro s calls _ h; simpa [consulted] using h
  | cons input inputs ih =>
    intro s calls hw h
    have hnext := cache_step s input h
    rw [World.ask_of_sameSkeleton hw] at hnext
    have hw' : World.SameSkeleton w (s.step input).play.world :=
      trans_of _ hw (develops_step s input).keeps.skeleton
    rw [List.foldl_cons, ih (s.step input) hw' hnext, consulted, List.map_append, List.append_assoc]

theorem cache_start (w : World) (store : Store) : (start w store).play.cache = served [] := by
  have hmade : Made False False False opening := made_opening
  rw [start, play_ofAct, hmade.uncached.cache_eq]
  rfl

/-- In a game that has been loaded patterns of a verb are built when it is tried for the first time
and never again, whatever the player sends and whatever happens in between. So the builds are the
verbs that have been tried, of which there are ten at most. -/
theorem builds_of_load {story : Story} {w : World} (hload : World.load story = .ok w)
    (store : Store) (inputs : List Input) :
    let verbs := (start w store).consulted inputs
    let cache := (inputs.foldl step (start w store)).play.cache
    cache = served (verbs.map w.ask) ∧
    (∀ before verb, (served ((before ++ [verb]).map w.ask)).builds
      = (served (before.map w.ask)).builds + if verb ∈ before then 0 else 1) ∧
    (∀ verb, (cache.get? verb).isSome = true ↔ verb ∈ verbs) ∧
    cache.builds = verbs.toFinset.card ∧ cache.builds ≤ 10 := by
  intro verbs cache
  have hok := World.isOk_ask hload
  have hbuilds (verbs : List Verb) : (served (verbs.map w.ask)).builds = verbs.toFinset.card :=
    builds_served_map (fun _ => rfl) hok verbs
  have hskeleton : World.SameSkeleton w (start w store).play.world :=
    (develops_start w store).keeps.skeleton
  have hcache : cache = served (verbs.map w.ask) :=
    cache_foldl inputs _ hskeleton (cache_start w store)
  refine ⟨hcache, fun before verb => ?_, fun verb => ?_, ?_, ?_⟩
  · rw [hbuilds, hbuilds]
    split
    · rename_i hmem
      simp [Finset.insert_eq_of_mem (List.mem_toFinset.2 hmem)]
    · rename_i hmem
      simp [Finset.card_insert_of_notMem fun h => hmem (List.mem_toFinset.1 h)]
  · have hasked := asked?_served verb (verbs.map w.ask)
    rw [← hcache, lastBuilt?_map (fun _ => rfl) hok] at hasked
    have hsome := congrArg Option.isSome hasked
    rw [asked?, Option.isSome_map] at hsome
    rw [hsome]
    split <;> simp_all
  · rw [hcache, hbuilds]
  · rw [hcache, hbuilds]
    have hsubset : verbs.toFinset ⊆ Verb.inOrder.toFinset := fun verb _ =>
      List.mem_toFinset.2 (Verb.mem_inOrder verb)
    exact (Finset.card_le_card hsubset).trans (List.toFinset_card_le _)

theorem builds_of_load_gateStory : ∃ w, World.load Story.gateStory = .ok w ∧
    let inputs := ["take lamp", "talk to guard", "1", "take lamp"].map Input.line
    (inputs.foldl step (start w .accepting)).play.cache.builds
      = ((start w .accepting).consulted inputs).toFinset.card := by
  obtain ⟨w, hload⟩ := World.load_gateStory
  exact ⟨w, hload, (builds_of_load hload .accepting _).2.2.2.1⟩

end Session

end Adventure
