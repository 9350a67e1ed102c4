import Adventure.Proofs.PatternExpression

/-!
# Searching with the expression of a pattern

What a search with the expression of a pattern captures is what the matcher binds
(`Pattern.captures?_eq_search`): both try the templates in order, a group before its omission and
long words before short ones, and both give up a choice only if the rest of the line does not fit.

The search lists all ways of one part before it looks at the next, while the matcher looks at the
rest at once. So what is compared is the first way that takes up the whole line (`accepted`): it is
looked for through the ways of the first part, and for each of them through those of the rest. The
induction on pieces keeps the captures that have been made before (`Template.Agrees`).
-/

namespace Adventure

namespace CapturingRegex

/-! ## Ways of the parts -/

theorem findSome?_flatMap {α β γ : Type} (f : α → List β) (g : β → Option γ) (l : List α) :
    (l.flatMap f).findSome? g = l.findSome? fun a => (f a).findSome? g := by
  induction l with
  | nil => rfl
  | cons a l ih =>
    rw [List.flatMap_cons, List.findSome?_append, ih, List.findSome?_cons]
    cases (f a).findSome? g <;> rfl

theorem getElem?_of_drop_eq_cons {α : Type} {l rest : List α} {a : α} {i : Nat}
    (h : l.drop i = a :: rest) : l[i]? = some a ∧ l.drop (i + 1) = rest := by
  rw [← List.head?_drop, ← List.drop_drop, h]
  exact ⟨rfl, rfl⟩

theorem getElem?_of_drop_eq_nil {α : Type} {l : List α} {i : Nat} (h : l.drop i = []) :
    l[i]? = none := by
  rw [← List.head?_drop, h]
  rfl

variable {α : Type} {text : List Char}

theorem findSome?_ways_seq (r s : CapturingRegex) (i : Nat) (accept : Way → Option α) :
    (ways text (seq r s) i).findSome? accept
      = (ways text r i).findSome? fun way =>
          (ways text s way.stop).findSome? fun next => accept (way.followedBy next) := by
  simp only [ways, findSome?_flatMap, List.findSome?_map]
  rfl

@[simp] theorem Way.followedBy_stop (way : Way) : way.followedBy ⟨way.stop, []⟩ = way := rfl

@[simp] theorem Way.mk_followedBy (stop : Nat) : Way.followedBy ⟨stop, []⟩ = id := by
  funext way
  rw [Way.followedBy, List.append_nil]
  rfl

theorem ways_chain_singleton (r : CapturingRegex) (i : Nat) :
    ways text (chain [r]) i = ways text r i := by
  simp [chain, ways]

/-- A phrase matches where the text goes on with it, and in no other way. -/
theorem ways_phrase (cs : List Char) (i : Nat) :
    ways text (chain (cs.map char)) i
      = if cs.isPrefixOf (text.drop i) then [⟨i + cs.length, []⟩] else [] := by
  induction cs generalizing i with
  | nil => simp [chain, ways]
  | cons c cs ih =>
    have ih := ih (i + 1)
    rw [chain] at ih
    rw [List.map_cons, chain, List.foldr_cons, ways, ways]
    cases hrest : text.drop i with
    | nil => simp [getElem?_of_drop_eq_nil hrest]
    | cons x rest =>
      obtain ⟨hi, hdrop⟩ := getElem?_of_drop_eq_cons hrest
      rw [hdrop] at ih
      rw [hi]
      by_cases hc : x = c
      · subst hc
        simp [ih, List.isPrefixOf, Nat.add_assoc, Nat.add_comm 1]
      · simp [hc, List.isPrefixOf, Ne.symm hc]

/-- The ways of a run of word characters, the longest first. -/
theorem rounds_wordChar {n i : Nat} (hn : text.length < n + i) :
    rounds (ways text wordChar) n i
      = (List.range ((text.drop i).takeWhile Unicode.isWordChar).length).reverse.map
          fun k => ⟨i + (k + 1), []⟩ := by
  induction n generalizing i with
  | zero =>
    rw [List.drop_eq_nil_of_le (by omega)]
    rfl
  | succ n ih =>
    rw [rounds, ways]
    cases hrest : text.drop i with
    | nil => simp [getElem?_of_drop_eq_nil hrest]
    | cons c rest =>
      obtain ⟨hi, hdrop⟩ := getElem?_of_drop_eq_cons hrest
      rw [hi]
      by_cases hc : Unicode.isWordChar c = true
      · have hword : (some c).any Unicode.isWordChar = true := hc
        have hrounds := ih (i := i + 1) (by omega)
        rw [hdrop] at hrounds
        rw [if_pos hword, List.flatMap_singleton, if_pos (Nat.lt_succ_self i), hrounds,
          List.takeWhile_cons_of_pos hc, List.length_cons, List.range_succ_eq_map]
        simp [Nat.add_assoc, Nat.add_comm 1]
      · simp [hc]

end CapturingRegex

namespace Template

open CapturingRegex
open Pattern (captureIndex capturesOf base)

/-- Trying the lengths of words from the longest on is a search through them. -/
theorem findSome?_reverse_range {α β : Type} {cs : List Char}
    {accept : List Char → List Char → Option α} {found : Nat → Option β} {f : α → β} {n : Nat}
    (h : ∀ k < n, found k = (accept (cs.take (k + 1)) (cs.drop (k + 1))).map f) :
    (List.range n).reverse.findSome? found = (longestWord cs accept n).map f := by
  induction n with
  | zero => rfl
  | succ n ih =>
    rw [List.range_succ, List.reverse_append, List.reverse_singleton, List.singleton_append,
      List.findSome?_cons, h n (Nat.lt_succ_self n), ih fun k hk => h k (Nat.lt_succ_of_lt hk),
      longestWord]
    cases accept (cs.take (n + 1)) (cs.drop (n + 1)) <;> rfl

variable {text : List Char} {verb : Verb} {place : Nat}

/-- What the captures hold where a way takes up the whole text and others have been made before. -/
def accepted (text : List Char) (before : List (String × String)) (way : Way) :
    Option (List (String × String)) :=
  if way.stop = text.length then some (way.captures ++ before) else none

theorem accepted_followedBy (before : List (String × String)) (way next : Way) :
    accepted text before (way.followedBy next) = accepted text (way.captures ++ before) next := by
  simp [accepted, Way.followedBy]

/-- The first way in which pieces take up the rest of the text is the match. -/
def Agrees (text : List Char) (verb : Verb) (place : Nat) (pieces : List Piece) : Prop :=
  ∀ i ≤ text.length, ∀ before,
    (ways text (.chain (pieces.map (·.expression (base verb place)))) i).findSome?
        (accepted text before)
      = (matchPieces? pieces (text.drop i)).map fun bindings =>
          (capturesOf verb place bindings).reverse ++ before

theorem findSome?_ways_cons (piece : Piece) (pieces : List Piece) (i : Nat)
    (before : List (String × String)) :
    (ways text (.chain ((piece :: pieces).map (·.expression (base verb place)))) i).findSome?
        (accepted text before)
      = (ways text (piece.expression (base verb place)) i).findSome? fun way =>
          (ways text (.chain (pieces.map (·.expression (base verb place)))) way.stop).findSome?
            (accepted text (way.captures ++ before)) := by
  rw [List.map_cons, CapturingRegex.chain, List.foldr_cons, findSome?_ways_seq]
  simp only [accepted_followedBy]
  rfl

theorem agrees_nil : Agrees text verb place [] := by
  intro i hi before
  have hstop : i = text.length ↔ text.drop i = [] := by
    rw [List.drop_eq_nil_iff]
    omega
  cases hrest : text.drop i with
  | nil => simp [chain, ways, accepted, hstop.2 hrest, matchPieces?, capturesOf]
  | cons => simp [chain, ways, accepted, hstop, hrest, matchPieces?]

section

variable {pieces : List Piece} (h : Agrees text verb place pieces)
include h

theorem Agrees.letter (c : Char) : Agrees text verb place (.letter c :: pieces) := by
  intro i hi before
  rw [findSome?_ways_cons, Piece.expression, ways]
  cases hrest : text.drop i with
  | nil => simp [getElem?_of_drop_eq_nil hrest, matchPieces?]
  | cons x rest =>
    obtain ⟨hget, hdrop⟩ := getElem?_of_drop_eq_cons hrest
    obtain ⟨hlt, -⟩ := List.getElem?_eq_some_iff.1 hget
    have hnext := h (i + 1) hlt before
    rw [hget, matchPieces?]
    by_cases hx : x = c
    · simp [hx, hnext, hdrop]
    · simp [hx]

/-- A group is tried with its text first, by the search and by the matcher. -/
theorem Agrees.group (g : List Char) : Agrees text verb place (.group g :: pieces) := by
  intro i hi before
  rw [findSome?_ways_cons, Piece.expression, ways, ways, ways_phrase, List.findSome?_append,
    matchPieces?]
  have hskip := h i hi before
  -- Where the text of the group stands, both fall back to its omission only if the rest fails.
  by_cases hg : g.isPrefixOf (text.drop i) = true
  · have hlength : i + g.length ≤ text.length := by
      have hle := (List.isPrefixOf_iff_prefix.1 hg).length_le
      rw [List.length_drop] at hle
      omega
    have hkeep := h (i + g.length) hlength before
    rw [← List.drop_drop] at hkeep
    rw [if_pos hg, if_pos hg]
    simp only [List.findSome?_singleton, List.nil_append, hkeep, hskip]
    cases matchPieces? pieces ((text.drop i).drop g.length) <;> rfl
  · rw [if_neg hg, if_neg hg]
    simpa using hskip

/-- A marker stands for the longest word first, by the search and by the matcher. -/
theorem Agrees.slot (m : Marker) : Agrees text verb place (.slot m :: pieces) := by
  intro i hi before
  rw [findSome?_ways_cons, Piece.expression, ways, ways_chain_singleton, ways,
    rounds_wordChar (by omega), matchPieces?, List.map_map, List.findSome?_map]
  refine findSome?_reverse_range fun k hk => ?_
  have hlength : i + (k + 1) ≤ text.length := by
    have hle := (List.takeWhile_prefix (l := text.drop i) Unicode.isWordChar).length_le
    rw [List.length_drop] at hle
    omega
  -- The word joins the captures made before, so the induction hypothesis is taken with it.
  refine (h (i + (k + 1)) hlength _).trans ?_
  rw [← List.drop_drop, Option.map_map]
  refine congrFun (congrArg Option.map (funext fun bindings => ?_)) _
  simp [capturesOf, slice]

end

theorem agrees (text : List Char) (verb : Verb) (place : Nat) (pieces : List Piece) :
    Agrees text verb place pieces := by
  induction pieces with
  | nil => exact agrees_nil
  | cons piece pieces ih =>
    cases piece with
    | letter c => exact ih.letter c
    | group g => exact ih.group g
    | slot m => exact ih.slot m

end Template

namespace Pattern

open Template CapturingRegex

theorem findSome?_ways_template (verb : Verb) (place : Nat) (line : List Char)
    (template : Template) :
    (ways line (template.expression (base verb place)) 0).findSome? (accepted line [])
      = (template.match? line).map fun bindings => (capturesOf verb place bindings).reverse := by
  have hagrees := agrees line verb place template.pieces 0 (Nat.zero_le _) []
  simp only [List.append_nil, List.drop_zero] at hagrees
  exact hagrees

/-- The first way in which one of the templates takes up the whole line is the first match. -/
theorem findSome?_ways_bodies (verb : Verb) (line : List Char) :
    ∀ (place : Nat) {templates : List Template}, templates ≠ [] →
      (ways line (firstOf (bodiesFrom verb place templates)) 0).findSome? (accepted line [])
        = (firstMatch? line place templates).map fun m => (capturesOf verb m.1 m.2).reverse
  | place, [template], _ => by
    refine (findSome?_ways_template verb place line template).trans ?_
    rw [firstMatch?_cons, firstMatch?]
    cases template.match? line <;> rfl
  | place, template :: next :: rest, _ => by
    have ih := findSome?_ways_bodies verb line (place + 1) (List.cons_ne_nil next rest)
    have hways : ways line (firstOf (bodiesFrom verb place (template :: next :: rest))) 0
        = ways line (template.expression (base verb place)) 0
          ++ ways line (firstOf (bodiesFrom verb (place + 1) (next :: rest))) 0 := rfl
    rw [hways, List.findSome?_append, ih, findSome?_ways_template,
      firstMatch?_cons line place]
    cases template.match? line <;> rfl

/-- An expression for whole lines matches from the beginning or not at all. -/
theorem search_line (r : CapturingRegex) (text : List Char) :
    search (.chain [.textStart, .group r, .textEnd]) text
      = (ways text r 0).findSome? fun way => if way.stop = text.length then some way else none := by
  have hfirst : ways text (.chain [.textStart, .group r, .textEnd]) 0
      = (ways text r 0).flatMap fun way => if way.stop = text.length then [way] else [] := by
    simp only [chain, List.foldr_cons, List.foldr_nil, ways, if_pos, List.flatMap_singleton,
      Way.mk_followedBy, List.map_id]
    refine congrArg (List.flatMap · _) (funext fun way => ?_)
    split <;> simp
  -- From a later position there is no way, as the text does not begin there.
  have hlater : (List.range text.length).findSome? ((fun i =>
      (ways text (.chain [.textStart, .group r, .textEnd]) i).head?) ∘ Nat.succ) = none :=
    List.findSome?_eq_none_iff.2 fun i _ => by simp [chain, ways]
  have hhead : ∀ way : Way, (if way.stop = text.length then [way] else []).head?
      = if way.stop = text.length then some way else none := by
    intro way
    split <;> rfl
  rw [search, List.range_succ_eq_map, List.findSome?_cons, hfirst, List.head?_flatMap,
    List.findSome?_map, hlater]
  simp only [hhead]
  generalize (ways text r 0).findSome? _ = found
  cases found <;> rfl

/-- The captures of a line are those that a search with the pattern's expression finds. -/
theorem captures?_eq_search {pattern : Pattern} (h : pattern.templates ≠ []) (line : String) :
    pattern.captures? line
      = (pattern.expression.search line.toList).map fun way => way.captures.reverse := by
  have hbodies := findSome?_ways_bodies pattern.verb line.toList 0 h
  have haccepted : accepted line.toList [] = Option.map Way.captures ∘
      fun way => if way.stop = line.toList.length then some way else none := by
    funext way
    simp only [accepted, Function.comp_apply, List.append_nil]
    split <;> rfl
  rw [haccepted, ← List.map_findSome?, ← search_line] at hbodies
  have hreverse := congrArg (Option.map List.reverse) hbodies
  simp only [Option.map_map, Function.comp_def, List.reverse_reverse] at hreverse
  rw [captures?, capturesFrom?_eq, expression, hreverse]

/-- A test with the regular expression of a pattern tells whether the line has captures. -/
theorem matchesIn_expression {pattern : Pattern} (h : pattern.templates ≠ []) (line : String) :
    pattern.expression.plain.matchesIn line = (pattern.captures? line).isSome := by
  rw [← isSome_search, captures?_eq_search h, Option.isSome_map]

end Pattern

end Adventure
