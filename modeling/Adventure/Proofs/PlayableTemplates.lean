import Adventure.Proofs.LineReading
import Adventure.Proofs.NormalLines

/-!
# Templates that can be played

A line that the player sends is put into normal form before it is compared with templates, so a
template whose expansions all have a space too many is never matched. The rules about spaces look
at the text of a template, where a bracket stands between the spaces on its sides. So there are
templates that keep all rules and still have no line: where only loose groups stand between two
spaces, each of them brings a space along, and without any of them the two spaces meet
(`Template.Stranded`). Every other template can be played (`Pattern.playable_iff`).

The line that is found keeps as few groups as possible: one that is not loose where two spaces
would meet otherwise.
-/

namespace Adventure

namespace Template

open Text

/-- A group that begins or ends with a space. -/
def Piece.IsLoose : Piece → Prop
  | .group g => g.head? = some ' ' ∨ g.getLast? = some ' '
  | _ => False

/-- Between two spaces, the ends of the template counting as such, there are only loose groups. -/
def Stranded (template : Template) : Prop :=
  ∃ before groups after, template.pieces = before ++ groups ++ after ∧ groups ≠ [] ∧
    (∀ piece ∈ groups, piece.IsLoose) ∧ (before = [] ∨ before.getLast? = some (.letter ' ')) ∧
    (after = [] ∨ after.head? = some (.letter ' '))

/-! ## Expansions of several pieces -/

section

variable {words : Marker → List Char} {pieces : List Piece} {line : List Char}

/-- An expansion of some pieces and others consists of an expansion of each. -/
theorem exists_of_expands_append {others : List Piece} (h : ∀ piece ∈ pieces, piece.WellFormed)
    (hline : Expands words ((pieces ++ others).flatMap Piece.chars) line) :
    ∃ first rest, line = first ++ rest ∧ Expands words (pieces.flatMap Piece.chars) first ∧
      Expands words (others.flatMap Piece.chars) rest := by
  induction pieces generalizing line with
  | nil => exact ⟨[], line, rfl, .nil, hline⟩
  | cons piece pieces ih =>
    obtain ⟨hpiece, hpieces⟩ := List.forall_mem_cons.1 h
    cases piece with
    | letter c =>
      obtain ⟨tail, rfl, htail⟩ := (expands_plain hpiece).1 hline
      obtain ⟨first, rest, rfl, hfirst, hrest⟩ := ih hpieces htail
      exact ⟨c :: first, rest, rfl, (expands_plain hpiece).2 ⟨first, rfl, hfirst⟩, hrest⟩
    | group g =>
      rw [List.cons_append, flatMap_chars_group, expands_group hpiece.1] at hline
      rw [flatMap_chars_group]
      rcases hline with ⟨tail, rfl, htail⟩ | hline
      · obtain ⟨first, rest, rfl, hfirst, hrest⟩ := ih hpieces htail
        exact ⟨g ++ first, rest, (List.append_assoc ..).symm, .kept hpiece.1 hfirst, hrest⟩
      · obtain ⟨first, rest, rfl, hfirst, hrest⟩ := ih hpieces hline
        exact ⟨first, rest, rfl, .dropped hpiece.1 hfirst, hrest⟩
    | slot m =>
      obtain ⟨tail, rfl, hm, hword, htail⟩ := (expands_marker m).1 hline
      obtain ⟨first, rest, rfl, hfirst, hrest⟩ := ih hpieces htail
      exact ⟨words m ++ first, rest, (List.append_assoc ..).symm, .marker hm hword hfirst, hrest⟩

/-! ## Stranded templates -/

theorem Piece.IsLoose.exists_group {piece : Piece} (h : piece.IsLoose) :
    ∃ g, piece = .group g ∧ (g.head? = some ' ' ∨ g.getLast? = some ' ') := by
  cases piece with
  | group g => exact ⟨g, rfl, h⟩
  | letter | slot => exact h.elim

/-- After a space, a loose group is out of place or ends with a space itself. -/
theorem gapAfter?_loose {g : List Char} (hloose : g.head? = some ' ' ∨ g.getLast? = some ' ')
    (hne : g ≠ []) : gapAfter? true g = none ∨ gapAfter? true g = some true := by
  cases hgap : gapAfter? true g with
  | none => exact .inl rfl
  | some gap =>
    have hhead : g.head? ≠ some ' ' := fun hhead => by
      rw [gapAfter?_eq_none.2 (.inl ⟨rfl, hhead⟩)] at hgap
      cases hgap
    rw [eq_of_gapAfter? hgap hne, decide_eq_true (hloose.resolve_left hhead)]
    exact .inr rfl

/-- Loose groups after a space leave no place for another one. -/
theorem gapAfter?_ne_of_loose {groups after : List Piece}
    (h : ∀ piece ∈ groups ++ after, piece.WellFormed) (hloose : ∀ piece ∈ groups, piece.IsLoose)
    (hafter : after = [] ∨ after.head? = some (.letter ' '))
    (hline : Expands words ((groups ++ after).flatMap Piece.chars) line) :
    gapAfter? true line ≠ some false := by
  induction groups generalizing line with
  | nil =>
    rcases hafter with rfl | hspace
    · obtain rfl := expands_nil.1 hline
      simp [gapAfter?]
    · obtain ⟨rest, rfl⟩ := List.head?_eq_some_iff.1 hspace
      obtain ⟨line, rfl, -⟩ := (expands_plain (by decide)).1 hline
      simp [gapAfter?]
  | cons piece groups ih =>
    obtain ⟨hpiece, hpieces⟩ := List.forall_mem_cons.1 h
    obtain ⟨hfirst, hothers⟩ := List.forall_mem_cons.1 hloose
    obtain ⟨g, rfl, hg⟩ := hfirst.exists_group
    rw [List.cons_append, flatMap_chars_group, expands_group hpiece.1] at hline
    rcases hline with ⟨rest, rfl, hrest⟩ | hline
    · obtain ⟨c, hc, -⟩ := hpiece.2
      rw [gapAfter?_append]
      rcases gapAfter?_loose hg (List.ne_nil_of_mem hc) with hgap | hgap <;> rw [hgap]
      · simp
      · exact ih hpieces hothers hrest
    · exact ih hpieces hothers hline

end

/-- No expansion of a stranded template is well spaced. -/
theorem Stranded.not_wellSpaced {template : Template} {words : Marker → List Char}
    {line : List Char} (h : template.Stranded)
    (hformed : ∀ piece ∈ template.pieces, piece.WellFormed)
    (hline : Expands words (template.pieces.flatMap Piece.chars) line) : ¬ WellSpaced line := by
  obtain ⟨before, groups, after, hpieces, -, hloose, hbefore, hafter⟩ := h
  rw [hpieces, List.append_assoc] at hformed hline
  obtain ⟨hfirst, hrest⟩ := List.forall_mem_append.1 hformed
  obtain ⟨first, rest, rfl, hbegin, hline⟩ := exists_of_expands_append hfirst hline
  have hstuck := gapAfter?_ne_of_loose hrest hloose hafter hline
  rw [wellSpaced_iff]
  rcases hbefore with rfl | hspace
  · obtain rfl := expands_nil.1 hbegin
    exact hstuck
  · obtain ⟨init, rfl⟩ := List.getLast?_eq_some_iff.1 hspace
    obtain ⟨first, last, rfl, -, hlast⟩ :=
      exists_of_expands_append (List.forall_mem_append.1 hfirst).1 hbegin
    obtain ⟨tail, rfl, htail⟩ := (expands_plain (by decide)).1 hlast
    obtain rfl := expands_nil.1 htail
    rw [gapAfter?_append]
    rcases gapAfter?_space true first with hspace | hspace <;> rw [hspace]
    · exact nofun
    · exact hstuck

/-! ## Other templates -/

/-- After a space, such pieces have no expansion: loose groups up to a space or the end. -/
def Blocked (pieces : List Piece) : Prop :=
  ∃ groups after, pieces = groups ++ after ∧ (∀ piece ∈ groups, piece.IsLoose) ∧
    (after = [] ∨ after.head? = some (.letter ' '))

theorem Blocked.cons {pieces : List Piece} (h : Blocked pieces) {piece : Piece}
    (hloose : piece.IsLoose) : Blocked (piece :: pieces) := by
  obtain ⟨groups, after, rfl, hgroups, hafter⟩ := h
  exact ⟨piece :: groups, after, rfl, List.forall_mem_cons.2 ⟨hloose, hgroups⟩, hafter⟩

theorem blocked_nil : Blocked [] := ⟨[], [], rfl, nofun, .inl rfl⟩

theorem blocked_space (pieces : List Piece) : Blocked (.letter ' ' :: pieces) :=
  ⟨[], _, rfl, nofun, .inr rfl⟩

/-- A group in which no two spaces meet and that is not loose may stand after a space. -/
theorem gapAfter?_tidy {g : List Char} (htidy : ¬ [' ', ' '] <:+: g) (hne : g ≠ [])
    (hloose : ¬ (Piece.group g).IsLoose) : gapAfter? true g = some false := by
  obtain ⟨hhead, hlast⟩ := not_or.1 hloose
  exact wellSpaced_iff.1 ⟨hne, hhead, hlast, htidy⟩

/-- Pieces of which no end is blocked where a space comes before it have an expansion in which no
two spaces meet. Of the groups it keeps those that stand after a space and are not loose. -/
theorem exists_expansion {pieces : List Piece} (hformed : ∀ piece ∈ pieces, piece.WellFormed)
    (htidy : ∀ g, .group g ∈ pieces → ¬ [' ', ' '] <:+: g) (blank : Bool)
    (hfirst : blank = true → ¬ Blocked pieces)
    (hspaces : ∀ before after, pieces = before ++ .letter ' ' :: after → ¬ Blocked after) :
    ∃ line, Expands (fun _ => ['a']) (pieces.flatMap Piece.chars) line ∧
      (∀ c ∈ line, isPlain c = true) ∧ gapAfter? blank line = some false := by
  induction pieces generalizing blank with
  | nil =>
    cases blank with
    | true => exact absurd blocked_nil (hfirst rfl)
    | false => exact ⟨[], .nil, nofun, rfl⟩
  | cons piece pieces ih =>
    obtain ⟨hpiece, hpieces⟩ := List.forall_mem_cons.1 hformed
    have hothers : ∀ g, .group g ∈ pieces → ¬ [' ', ' '] <:+: g := fun g hg =>
      htidy g (List.mem_cons_of_mem _ hg)
    have hlater : ∀ before after, pieces = before ++ .letter ' ' :: after → ¬ Blocked after :=
      fun before after h => hspaces (piece :: before) after (congrArg (piece :: ·) h)
    cases piece with
    | letter c =>
      -- The rest comes after a space exactly if the letter is one.
      obtain ⟨line, hline, hplain, hgap⟩ := ih hpieces hothers (decide (c = ' '))
        (fun hc => hspaces [] pieces (of_decide_eq_true hc ▸ rfl)) hlater
      refine ⟨c :: line, .plain hpiece hline, List.forall_mem_cons.2 ⟨hpiece, hplain⟩, ?_⟩
      by_cases hc : c = ' '
      · subst hc
        cases blank with
        | true => exact absurd (blocked_space pieces) (hfirst rfl)
        | false => exact hgap
      · rw [gapAfter?_cons_of_ne hc]
        rwa [decide_eq_false hc] at hgap
    | slot m =>
      obtain ⟨line, hline, hplain, hgap⟩ := ih hpieces hothers false nofun hlater
      refine ⟨'a' :: line, ?_, List.forall_mem_cons.2 ⟨by decide, hplain⟩, hgap⟩
      exact (expands_marker m).2 ⟨line, rfl, by simp, by simp; decide, hline⟩
    | group g =>
      rw [flatMap_chars_group]
      by_cases hkept : blank = true ∧ ¬ (Piece.group g).IsLoose
      · obtain ⟨rfl, hloose⟩ := hkept
        obtain ⟨line, hline, hplain, hgap⟩ := ih hpieces hothers false nofun hlater
        obtain ⟨c, hc, -⟩ := hpiece.2
        have hword := gapAfter?_tidy (htidy g List.mem_cons_self) (List.ne_nil_of_mem hc) hloose
        refine ⟨g ++ line, .kept hpiece.1 hline, List.forall_mem_append.2 ⟨hpiece.1, hplain⟩, ?_⟩
        rw [gapAfter?_append, hword]
        exact hgap
      · obtain ⟨line, hline, hplain, hgap⟩ := ih hpieces hothers blank
          (fun hblank hblocked => hfirst hblank <| hblocked.cons <| by_contra fun hloose =>
            hkept ⟨hblank, hloose⟩) hlater
        exact ⟨line, .dropped hpiece.1 hline, hplain, hgap⟩

section

variable {arity : Nat} {text : String} {template : Template}
  (h : Composed arity text template.pieces)
include h

/-- In the groups of a template no two spaces meet. -/
theorem Composed.tidy (g : List Char) (hg : .group g ∈ template.pieces) :
    ¬ [' ', ' '] <:+: g := by
  obtain ⟨before, after, hpieces⟩ := List.append_of_mem hg
  refine fun hmeet => h.spaced.single (hmeet.trans ?_)
  rw [h.chars_eq, hpieces, List.flatMap_append, flatMap_chars_group]
  exact ⟨before.flatMap Piece.chars ++ ['['], ']' :: after.flatMap Piece.chars, by simp⟩

/-- Where a template goes on after a space, or begins, it has groups if it is blocked there. -/
theorem Composed.stranded {before after : List Piece}
    (hpieces : template.pieces = before ++ after)
    (hbefore : before = [] ∨ before.getLast? = some (.letter ' ')) (hblocked : Blocked after) :
    template.Stranded := by
  obtain ⟨groups, after, rfl, hloose, hafter⟩ := hblocked
  refine ⟨before, groups, after, by rw [hpieces, List.append_assoc], ?_, hloose, hbefore, hafter⟩
  rintro rfl
  have hgap := wellSpaced_iff.1 h.spaced
  rw [h.chars_eq, hpieces, List.flatMap_append, gapAfter?_append] at hgap
  -- Without groups the text itself ends with a space, or two of its spaces meet.
  have hspace : gapAfter? true (before.flatMap Piece.chars) = none ∨
      gapAfter? true (before.flatMap Piece.chars) = some true := by
    rcases hbefore with rfl | hlast
    · exact .inr rfl
    · obtain ⟨init, rfl⟩ := List.getLast?_eq_some_iff.1 hlast
      rw [List.flatMap_append]
      exact gapAfter?_space true _
  rcases hspace with hspace | hspace <;> rw [hspace] at hgap
  · cases hgap
  · rcases hafter with rfl | hhead
    · cases hgap
    · obtain ⟨rest, rfl⟩ := List.head?_eq_some_iff.1 hhead
      cases hgap

/-- A template that is not stranded has an expansion in which no two spaces meet. -/
theorem Composed.exists_wellSpaced (hfree : ¬ template.Stranded) :
    ∃ line, Expands (fun _ => ['a']) text.toList line ∧ (∀ c ∈ line, isPlain c = true) ∧
      WellSpaced line := by
  rw [h.chars_eq]
  obtain ⟨line, hline, hplain, hgap⟩ := exists_expansion h.wellFormed h.tidy true
    (fun _ hblocked => hfree (h.stranded rfl (.inl rfl) hblocked))
    (fun before after hpieces hblocked => by
      rw [← List.singleton_append, ← List.append_assoc] at hpieces
      exact hfree (h.stranded hpieces (.inr List.getLast?_concat) hblocked))
  exact ⟨line, hline, hplain, wellSpaced_iff.2 hgap⟩

/-- Some letter of a template stands outside all groups, so it is in every expansion. -/
theorem Composed.ne_nil {words : Marker → List Char} {line : List Char}
    (hline : Expands words text.toList line) : line ≠ [] := by
  obtain ⟨c, hletter, hc⟩ := h.letters
  obtain ⟨before, after, hpieces⟩ := List.append_of_mem hc
  have hformed := h.wellFormed
  rw [h.chars_eq, hpieces] at hline
  rw [hpieces] at hformed
  obtain ⟨first, rest, rfl, -, hrest⟩ :=
    exists_of_expands_append (List.forall_mem_append.1 hformed).1 hline
  obtain ⟨tail, rfl, -⟩ := (expands_plain (isPlain_iff.2 (.inr hletter))).1 hrest
  simp

/-- A template has an expansion in normal form exactly if it is not stranded. -/
theorem Composed.exists_normal_iff :
    (∃ line, Text.normalize line = line ∧ IsExpansion text line) ↔ ¬ template.Stranded := by
  constructor
  · rintro ⟨line, hnormal, words, hline⟩ hstranded
    have hspaced := (wellSpaced_of_normalize hnormal).resolve_left (h.ne_nil hline)
    rw [h.chars_eq] at hline
    exact hstranded.not_wellSpaced h.wellFormed hline hspaced
  · intro hfree
    obtain ⟨line, hline, hplain, hspaced⟩ := h.exists_wellSpaced hfree
    refine ⟨String.ofList line, normalize_of_wellSpaced ?_ ?_, fun _ => ['a'], ?_⟩ <;>
      rw [String.toList_ofList]
    · exact hspaced
    · exact hplain
    · exact hline

end

end Template

namespace Pattern

open Template

/-- The pattern of a single template, which reads exactly the expansions of the template. -/
theorem build_single {verb : Verb} {text : String} {template : Template}
    (h : parse? verb.arity text = .ok template) :
    (∀ engine : Regex.Engine, build verb [text] engine =
        if engine.accepts (regexText ⟨verb, [template]⟩) then .ok (some ⟨verb, [template]⟩)
        else .error (.badPattern verb)) ∧
      ∀ line, (∃ parameters, read ⟨verb, [template]⟩ line = .ok (some parameters)) ↔
        IsExpansion text line := by
  have hread : ReadFrom verb [text] [template] := .cons h .nil
  have hall : parseAll verb [text] = .ok [template] := by
    simp [parseAll, h, Except.map]
  refine ⟨build_eq hall (List.cons_ne_nil _ _), fun line => ?_⟩
  rw [read_eq (hread.wellFormed (List.cons_ne_nil _ _)).formed]
  have hmatch : (match? ⟨verb, [template]⟩ line).isSome = true ↔ _ := match?_isSome_iff hread
  rw [Option.isSome_iff_exists] at hmatch
  simpa using hmatch

/-- A template that keeps all rules makes up a pattern for its verb, which is built exactly if the
engine accepts its expression. The pattern reads some line in normal form exactly if the template is
not stranded. -/
theorem playable_iff {verb : Verb} {text : String} {template : Template}
    (h : parse? verb.arity text = .ok template) :
    ∃ pattern, (∀ engine : Regex.Engine, build verb [text] engine =
        if engine.accepts pattern.regexText then .ok (some pattern)
        else .error (.badPattern verb)) ∧
      ((∃ line parameters, Text.normalize line = line ∧
          pattern.read line = .ok (some parameters)) ↔ ¬ template.Stranded) := by
  obtain ⟨hbuild, hread⟩ := build_single h
  refine ⟨_, hbuild, ?_⟩
  rw [← (parse?_eq_ok_iff.1 h).exists_normal_iff]
  simp only [exists_and_left, hread]

/-- Here the object follows the group, whose own space is then in place. -/
theorem playable_iff_take : (parse? Verb.take.arity "take [the ]<A>"
      = .ok ⟨"take ".toList.map .letter ++ [.group "the ".toList, .slot .a]⟩) ∧
    ∃ pattern, (∀ engine : Regex.Engine, build .take ["take [the ]<A>"] engine =
        if engine.accepts pattern.regexText then .ok (some pattern)
        else .error (.badPattern .take)) ∧
      ((∃ line parameters, Text.normalize line = line ∧
          pattern.read line = .ok (some parameters)) ↔
        ¬ Stranded ⟨"take ".toList.map .letter ++ [.group "the ".toList, .slot .a]⟩) :=
  ⟨rfl, playable_iff rfl⟩

/-- A template that keeps all rules and whose only group follows a space and ends with one. With or
without the group, a line ends with a space, so no line in normal form is read. -/
theorem lookAround_unplayable : (parse? Verb.lookAround.arity "look [around ]"
      = .ok ⟨"look ".toList.map .letter ++ [.group "around ".toList]⟩) ∧
    ∃ pattern, build .lookAround ["look [around ]"] = .ok (some pattern) ∧
      ¬ ∃ line parameters, Text.normalize line = line ∧
        pattern.read line = .ok (some parameters) := by
  have htemplate : parse? Verb.lookAround.arity "look [around ]"
      = .ok ⟨"look ".toList.map .letter ++ [.group "around ".toList]⟩ := rfl
  obtain ⟨hbuild, hread⟩ := build_single htemplate
  refine ⟨htemplate, _, hbuild .unlimited, ?_⟩
  simp only [exists_and_left, hread]
  rw [(parse?_eq_ok_iff.1 htemplate).exists_normal_iff, not_not]
  exact ⟨"look ".toList.map .letter, [.group "around ".toList], [], rfl, List.cons_ne_nil _ _,
    by simp [Piece.IsLoose], .inr rfl, .inl rfl⟩

end Pattern

end Adventure
