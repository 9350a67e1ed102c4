import Adventure.Proofs.CachedCommands
import Adventure.Proofs.Developments
import Adventure.Proofs.LineReading
import Adventure.Proofs.SoundStories

/-!
# Phrasings that objects add

A line that none of the game's own phrasings fit is read by the phrasings that objects add to a
verb, all of them together, and its words are those of the first that it is an expansion of. Whether
an object answers is decided afterwards by its own phrasings, which then need not read the same
words. So an object may answer in a role that none of its phrasings gives it: the phrasing of
another object leaks to it (`Command.LeaksTo`). When this happens is settled here exactly
(`World.leaksTo_iff`): never where the object declares the phrasing that supplied the words, and
otherwise exactly if each of its phrasings that the line is an expansion of reads other words.
-/

namespace Adventure

namespace World

/-! ## Phrasings are part of the skeleton -/

/-- What is read off the frames of entities is the same in worlds of one skeleton. -/
theorem map_values_of_sameSkeleton {w w' : World} {kind : EntityKind} {β : Type}
    {g : Entity kind → β} (hg : ∀ e, g (frame kind e) = g e) (h : SameSkeleton w w') :
    (w'.arena kind).values.map g = (w.arena kind).values.map g := by
  have hview : ∀ w : World, (w.view frame kind).values.map g = (w.arena kind).values.map g := by
    intro w
    simp [view, Arena.values, Arena.map, hg]
  rw [← hview, ← hview, show w'.view frame = w.view frame from congrArg Skeleton.entities h]

theorem phrasingSources_of_sameSkeleton {w w' : World} (h : SameSkeleton w w') (verb : Verb) :
    w'.phrasingSources verb = w.phrasingSources verb := by
  have hways {β : Type} {g : Way → β} (hg : ∀ e, g (frame .way e) = g e) :=
    map_values_of_sameSkeleton hg h
  have hitems {β : Type} {g : Item → β} (hg : ∀ e, g (frame .item e) = g e) :=
    map_values_of_sameSkeleton hg h
  have hcarried {β : Type} {g : InventoryItem → β} (hg : ∀ e, g (frame .inventoryItem e) = g e) :=
    map_values_of_sameSkeleton hg h
  have hpersons {β : Type} {g : Person → β} (hg : ∀ e, g (frame .person e) = g e) :=
    map_values_of_sameSkeleton hg h
  simp only [arena] at hways hitems hcarried hpersons
  cases verb with
  | exit | help | lookAround | inventory => rfl
  | inspect =>
    simp only [phrasingSources]
    rw [hitems fun _ => rfl, hcarried fun _ => rfl, hpersons fun _ => rfl, hways fun _ => rfl]
  | take => exact hitems fun _ => rfl
  | talkTo => exact hpersons fun _ => rfl
  | move => exact hways fun _ => rfl
  | use =>
    simp only [phrasingSources]
    rw [hitems fun _ => rfl, hcarried fun _ => rfl]
  | useWith =>
    simp only [phrasingSources, List.flatMap_def]
    rw [hcarried fun e => by simp [frame]]

/-- The phrasings that objects add in a game are templates for their verbs throughout. -/
theorem phrased_sources {s : Story} {w₀ w : World} (hload : load s = .ok w₀)
    (hdevelops : Develops w₀ w) {verb : Verb} :
    ∀ source ∈ w.phrasingSources verb, Phrased verb source.2 := by
  have hloaded := loaded_of_load hload
  have hskeleton := trans_of _ hloaded.keeps.skeleton hdevelops.keeps.skeleton
  rw [phrasingSources_of_sameSkeleton hskeleton]
  exact (authoringFaults_eq_nil.1 hloaded.authoring).1.added verb

end World

namespace Pattern

open Template

/-! ## Single phrasings -/

/-- The words that a line has for a phrasing on its own, if it is an expansion of it. -/
def wordsOf? (verb : Verb) (text line : String) : Option (List String) :=
  match build verb [text] with
  | .ok (some pattern) =>
    match pattern.read line with
    | .ok (some parameters) => some (parameters.map (·.value))
    | _ => none
  | _ => none

/-- The words that a match binds, the first object's before the second one's. -/
def boundWords (verb : Verb) (bindings : Bindings) : List String :=
  (([Marker.a, .b].take verb.arity).filterMap fun m => bindings.lookup m).map String.ofList

theorem map_value_parameters (verb : Verb) (base : Nat) (bindings : Bindings) :
    (parameters verb base bindings).map (·.value) = boundWords verb bindings := by
  rw [parameters, boundWords]
  apply List.ext_getElem <;> simp

variable {verb : Verb} {text line : String} {template : Template}

theorem wordsOf?_eq (h : parse? verb.arity text = .ok template) :
    wordsOf? verb text line = (template.match? line.toList).map (boundWords verb) := by
  have htemplates : parseAll verb [text] = .ok [template] := by simp [parseAll, h, Except.map]
  have hformed : Formed ⟨verb, [template]⟩ := by
    rintro t (_ | ⟨_, ⟨⟩⟩)
    exact fits_of_parse? h
  rw [wordsOf?, build_unlimited htemplates]
  simp only [List.isEmpty_cons, Bool.false_eq_true, if_false, read_eq hformed, match?, matchFrom?]
  cases template.match? line.toList with
  | none => rfl
  | some bindings => simp [map_value_parameters]

/-- A phrasing has words for a line exactly if the line is an expansion of it. -/
theorem isSome_wordsOf? (h : ValidPhrasing verb text) :
    (wordsOf? verb text line).isSome = true ↔ IsExpansion text line := by
  obtain ⟨template, htemplate⟩ := h
  rw [wordsOf?_eq htemplate, Option.isSome_map, isSome_match?_iff htemplate]
  rfl

/-- What is read with several phrasings are the words of the first of them that the line is an
expansion of. -/
theorem exists_wordsOf? {texts : List String} (hvalid : ∀ text ∈ texts, ValidPhrasing verb text)
    {pattern : Pattern} {parameters : List Parameter}
    (hbuild : build verb texts = .ok (some pattern))
    (hread : pattern.read line = .ok (some parameters)) :
    ∃ before first after, texts = before ++ first :: after ∧
      (∀ earlier ∈ before, ¬ IsExpansion earlier line) ∧
      wordsOf? verb first line = some (parameters.map (·.value)) := by
  obtain ⟨templates, htemplates, hfits⟩ := parseAll_ok hvalid
  rw [build_unlimited htemplates] at hbuild
  obtain ⟨-, rfl⟩ : templates ≠ [] ∧ ⟨verb, templates⟩ = pattern := by simpa using hbuild
  have hformed : Formed ⟨verb, templates⟩ := hfits
  have hmatch := Except.ok.inj ((read_eq hformed line).symm.trans hread)
  rw [match?, matchFrom?_eq] at hmatch
  obtain ⟨⟨k, bindings⟩, hfirst, rfl⟩ := Option.map_eq_some_iff.1 hmatch
  obtain ⟨before, first, after, template, rfl, -, hbefore, htemplate, hbindings⟩ :=
    (readFrom_of_parseAll htemplates).exists_match hfirst
  refine ⟨before, first, after, rfl, hbefore, ?_⟩
  rw [wordsOf?_eq htemplate, hbindings, map_value_parameters, Option.map_some]

end Pattern

namespace Command

open Steps

/-! ## Commands in words that objects add -/

/-- The words by which the command names its objects. -/
def words (command : Command) : List String := command.parameters.map (·.value)

/-- An object with phrasings of its own answers to the command although none of them has the words
of the command for the line. -/
def LeaksTo (command : Command) (phrasings : List String) : Prop :=
  command.acceptedBy phrasings = .ok true ∧
    ∀ text ∈ phrasings, Pattern.wordsOf? command.verb text command.input ≠ some command.words

/-- A command that does not come from the game's own phrasings is read with those that objects
add. -/
theorem read_added {verb : Verb} {builtin custom : List String} {input : String}
    {command : Command} (h : ofPhrasings? verb builtin custom input = .ok (some command))
    (hadded : command.common = false) :
    command.verb = verb ∧ command.input = input ∧
      ∃ pattern, Pattern.build verb custom = .ok (some pattern) ∧
        pattern.read input = .ok (some command.parameters) := by
  obtain ⟨own, -, h⟩ := bind_eq_ok.1 h
  obtain ⟨added, hbuild, h⟩ := bind_eq_ok.1 h
  obtain ⟨found, -, h⟩ := bind_eq_ok.1 h
  cases found with
  | some parameters =>
    obtain rfl := Option.some.inj (Except.ok.inj h)
    cases hadded
  | none =>
    obtain ⟨found, hread, h⟩ := bind_eq_ok.1 h
    cases found with
    | none => cases h
    | some parameters =>
      obtain rfl := Option.some.inj (Except.ok.inj h)
      cases added with
      | none => cases hread
      | some pattern => exact ⟨rfl, rfl, pattern, hbuild, hread⟩

theorem read_added_of_meaningFrom {phrasings : Phrasings} {custom : Verb → List String}
    {input : String} {command : Command} (hadded : command.common = false) :
    ∀ {verbs : List Verb}, meaningFrom phrasings custom input verbs = .ok (some command) →
      command.input = input ∧
      ∃ pattern, Pattern.build command.verb (custom command.verb) = .ok (some pattern) ∧
        pattern.read input = .ok (some command.parameters)
  | [], h => by cases h
  | verb :: verbs, h => by
    obtain ⟨found, hfound, h⟩ := bind_eq_ok.1 h
    cases found with
    | none => exact read_added_of_meaningFrom hadded h
    | some command =>
      obtain rfl := Option.some.inj (Except.ok.inj h)
      obtain ⟨rfl, hinput, hread⟩ := read_added hfound hadded
      exact ⟨hinput, hread⟩

/-- Whether an object answers to a command depends on its own phrasings, whatever their words. -/
theorem acceptedBy_iff {command : Command} {phrasings : List String}
    (hvalid : ∀ text ∈ phrasings, ValidPhrasing command.verb text)
    (hadded : command.common = false) :
    command.acceptedBy phrasings = .ok true ↔
      ∃ text ∈ phrasings, IsExpansion text command.input := by
  obtain ⟨templates, htemplates, -⟩ := Pattern.parseAll_ok hvalid
  rw [← Pattern.match?_isSome_iff (Pattern.readFrom_of_parseAll htemplates), acceptedBy, hadded,
    Pattern.build_unlimited htemplates]
  cases templates <;> simp [Except.map, Pattern.match?, Pattern.matchFrom?]

instance (command : Command) (phrasings : List String) : Decidable (command.LeaksTo phrasings) :=
  inferInstanceAs (Decidable (_ ∧ _))

end Command

namespace World

open Command

/-- A line that the game's own phrasings do not fit has the words of the first of the added
phrasings that it is an expansion of, which some object declares. The command does not leak to an
object that declares this phrasing. It leaks to another object exactly if the line is an expansion
of some of the object's phrasings and each of these reads other words. -/
theorem leaksTo_iff {s : Story} {w : World} (hload : load s = .ok w) {p : Play}
    (hdevelops : Develops w p.world) (calls : List CacheCall) {line : String} {command : Command}
    (hparse : (Act.parse line { p with cache := .after calls }).1 = .ok (some command))
    (hadded : command.common = false) :
    command.input = Text.normalize line ∧
    ∃ before first after, p.world.customPhrasings command.verb = before ++ first :: after ∧
      (∀ earlier ∈ before, ¬ IsExpansion earlier command.input) ∧
      Pattern.wordsOf? command.verb first command.input = some command.words ∧
      (∃ source ∈ p.world.phrasingSources command.verb, first ∈ source.2) ∧
      ∀ source ∈ p.world.phrasingSources command.verb,
        (first ∈ source.2 → ¬ command.LeaksTo source.2) ∧
        (command.LeaksTo source.2 ↔ (∃ text ∈ source.2, IsExpansion text command.input) ∧
          ∀ text ∈ source.2, IsExpansion text command.input →
            Pattern.wordsOf? command.verb text command.input
              ≠ Pattern.wordsOf? command.verb first command.input) := by
  have hvalid {verb : Verb} : ∀ source ∈ p.world.phrasingSources verb, Phrased verb source.2 :=
    phrased_sources hload hdevelops
  have hcustom : ∀ text ∈ p.world.customPhrasings command.verb,
      ValidPhrasing command.verb text := by
    intro text htext
    obtain ⟨source, hsource, htext⟩ := List.mem_flatMap.1 ((Text.mem_sortedSet ..).1 htext)
    exact hvalid source hsource text htext
  rw [Act.parse, (parse_eq line (PatternCache.faithful_after calls)).1, meaning] at hparse
  dsimp only at hparse
  split at hparse
  · cases hparse
  obtain ⟨hinput, pattern, hbuild, hread⟩ := read_added_of_meaningFrom hadded hparse
  rw [← hinput] at hread
  obtain ⟨before, first, after, htexts, hbefore, hfirst⟩ :=
    Pattern.exists_wordsOf? hcustom hbuild hread
  refine ⟨hinput, before, first, after, htexts, hbefore, hfirst, ?_, fun source hsource => ?_⟩
  · have hmem : first ∈ p.world.customPhrasings command.verb := htexts ▸ by simp
    exact List.mem_flatMap.1 ((Text.mem_sortedSet ..).1 hmem)
  refine ⟨fun hmem hleaks => hleaks.2 first hmem hfirst, ?_⟩
  rw [LeaksTo, acceptedBy_iff (hvalid source hsource) hadded]
  refine and_congr_right fun _ => forall₂_congr fun text htext => ?_
  -- A phrasing that the line is no expansion of has no words at all.
  rw [← Pattern.isSome_wordsOf? (hvalid source hsource text htext), hfirst]
  constructor
  · exact fun hne _ => hne
  · intro hne heq
    exact hne (by rw [heq]; rfl) heq

end World

/-! ## A leak -/

/-- A gem that can be swapped for a key or for a coin. The phrasing of the key names the gem first,
that of the coin names the gem second. -/
def Story.tradeStory : Story where
  game :=
    { phrasings := ⟨["exit"], [], [], [], [], [], [], [], [], ["use <A> with <B>"]⟩ }
  player := { startLocation := "hall", inventory := ["key", "coin"] }
  locations := [{ symbol := "hall", name := "Hall" }]
  items := [{ symbol := "gem", name := "gem", location := some "hall", identifiers := ["gem"] }]
  inventoryItems :=
    [{ symbol := "key", name := "key", identifiers := ["key"]
       interactions :=
         [{ partner := .item "gem", successText := some "The key changes hands."
            phrasings := ["swap <B> for <A>"] }] },
     { symbol := "coin", name := "coin", identifiers := ["coin"]
       interactions := [{ partner := .item "gem", phrasings := ["swap <A> for <B>"] }] }]

namespace World

open Command

/-- The command that a line is at the beginning of a game, unless it comes from the game's own
phrasings. -/
def addedCommand? (w : World) (line : String) : Option Command :=
  (Act.parse line { world := w }).1.toOption.join.filter fun command => !command.common

theorem addedCommand?_eq_some {w : World} {line : String} {command : Command}
    (h : w.addedCommand? line = some command) :
    (Act.parse line { world := w }).1 = .ok (some command) ∧ command.common = false := by
  obtain ⟨hjoin, hadded⟩ := Option.filter_eq_some_iff.1 h
  have hparse := Option.join_eq_some_iff.1 hjoin
  cases hresult : (Act.parse line { world := w }).1 with
  | error failure =>
    rw [hresult] at hparse
    cases hparse
  | ok read =>
    rw [hresult] at hparse
    exact ⟨congrArg Except.ok (Option.some.inj hparse), by simpa using hadded⟩

/-- Both lines are read with the phrasing of the coin, but the second one leaks to the key. -/
theorem load_tradeStory : ∃ w, load .tradeStory = .ok w ∧
    (∃ command, w.addedCommand? "swap coin for gem" = some command) ∧
    (∃ command, w.addedCommand? "swap key for gem" = some command ∧
      ∃ source ∈ w.phrasingSources command.verb, command.LeaksTo source.2) ∧
    (Act.execute "swap key for gem" { world := w }).2.view
      = [.actionSuccess "The key changes hands."] := by
  have hrun : (load .tradeStory).toOption.any (fun w =>
      (w.addedCommand? "swap coin for gem").isSome &&
      (w.addedCommand? "swap key for gem").any (fun command =>
        (w.phrasingSources command.verb).any fun source => decide (command.LeaksTo source.2)) &&
      decide ((Act.execute "swap key for gem" { world := w }).2.view
        = [.actionSuccess "The key changes hands."])) = true := by
    decide +kernel
  obtain ⟨w, hload, hrun⟩ := exists_ok_of_any hrun
  rw [Bool.and_eq_true, Bool.and_eq_true, decide_eq_true_iff] at hrun
  obtain ⟨⟨hcoin, hkey⟩, hview⟩ := hrun
  obtain ⟨command, hcommand, hsources⟩ := (Option.any_eq_true ..).1 hkey
  obtain ⟨source, hsource, hleaks⟩ := List.any_eq_true.1 hsources
  exact ⟨w, hload, Option.isSome_iff_exists.1 hcoin,
    ⟨command, hcommand, source, hsource, of_decide_eq_true hleaks⟩, hview⟩

theorem leaksTo_iff_tradeStory : ∃ w command, load .tradeStory = .ok w ∧ Develops w w ∧
    (Act.parse "swap coin for gem" { world := w, cache := .after [] }).1 = .ok (some command) ∧
    command.common = false ∧
    ∃ first, Pattern.wordsOf? command.verb first command.input = some command.words ∧
      ∀ source ∈ w.phrasingSources command.verb, first ∈ source.2 → ¬ command.LeaksTo source.2 := by
  obtain ⟨w, hload, ⟨command, hcommand⟩, -⟩ := load_tradeStory
  obtain ⟨hparse, hadded⟩ := addedCommand?_eq_some hcommand
  obtain ⟨-, -, first, -, -, -, hwords, -, hsources⟩ :=
    leaksTo_iff hload (p := { world := w }) .refl [] hparse hadded
  exact ⟨w, command, hload, .refl, hparse, hadded, first, hwords, fun source hsource =>
    (hsources source hsource).1⟩

/-- The phrasing of the coin supplies the words of the line, but it is the key that answers: its own
phrasing would take the gem for what is given away. -/
theorem leaksTo_tradeStory : ∃ w command, load .tradeStory = .ok w ∧
    (Act.parse "swap key for gem" { world := w }).1 = .ok (some command) ∧
    command.common = false ∧
    (∃ source ∈ w.phrasingSources command.verb, command.LeaksTo source.2) ∧
    (Act.execute "swap key for gem" { world := w }).2.view
      = [.actionSuccess "The key changes hands."] := by
  obtain ⟨w, hload, -, ⟨command, hcommand, hleaks⟩, hview⟩ := load_tradeStory
  obtain ⟨hparse, hadded⟩ := addedCommand?_eq_some hcommand
  exact ⟨w, command, hload, hparse, hadded, hleaks, hview⟩

end World

end Adventure
