import Adventure.Proofs.RegexReading
import Adventure.Proofs.RegexSearch
import Adventure.Proofs.TemplateRoundTrip

/-!
# The expression of a pattern

The templates of a pattern are the branches of a regular expression for whole lines
(`Pattern.expression`). The text of the pattern writes this expression (`Pattern.written_pattern`),
and the reader of regular expressions reads it back without the captures
(`Pattern.parse?_regexText`), so an engine without limits compiles every pattern.

The reader refuses a second capture of the same name. That there is none follows from the numbers:
those of one template lie between its base and the next (`Pattern.exists_of_mem_names`). Reading
goes through the pieces and the templates in turn, with the names taken so far.
-/

namespace Adventure

namespace CapturingRegex

/-! ## Sequences and choices -/

/-- Several expressions one after the other. -/
def chain (parts : List CapturingRegex) : CapturingRegex := parts.foldr seq empty

/-- One of several expressions, the first one that matches. -/
def firstOf : List CapturingRegex → CapturingRegex
  | [] => empty
  | [r] => r
  | r :: rest => alt r (firstOf rest)

theorem written_chain (parts : List CapturingRegex) :
    (chain parts).written = parts.flatMap written := by
  induction parts with
  | nil => rfl
  | cons r parts ih =>
    rw [List.flatMap_cons, ← ih]
    rfl

theorem written_firstOf : ∀ branches : List CapturingRegex,
    (firstOf branches).written = List.intercalate ['|'] (branches.map written)
  | [] => rfl
  | [r] => by simp [firstOf]
  | r :: s :: rest => by
    have ih := written_firstOf (s :: rest)
    simp only [List.map_cons, List.intercalate_cons_cons] at ih ⊢
    rw [← ih]
    simp [firstOf, written]

/-- An expression as an item of the reader. -/
def item (r : CapturingRegex) : Regex.Item := .expression r.plain

/-- What the reader makes of items, which come last one first. -/
theorem chain_reverse_items (parts : List CapturingRegex) :
    Regex.sequence (parts.map item).reverse = (chain parts).plain := by
  rw [Regex.sequence, List.foldl_reverse]
  induction parts with
  | nil => rfl
  | cons r parts ih =>
    rw [List.map_cons, List.foldr_cons, ih]
    rfl

end CapturingRegex

namespace Template

open Pattern (captureIndex)

/-- The expression of a piece whose captures are numbered from `base`. -/
def Piece.expression (base : Nat) : Piece → CapturingRegex
  | .letter c => .char c
  | .group cs => .optional (.group (.chain (cs.map .char)))
  | .slot m =>
    .capture (captureName (base + captureIndex m)) (.chain [.repeated .wordChar])

/-- The expression of a template whose captures are numbered from `base`. -/
def expression (template : Template) (base : Nat) : CapturingRegex :=
  .chain (template.pieces.map (·.expression base))

theorem flatMap_written_char (cs : List Char) :
    (cs.map CapturingRegex.char).flatMap CapturingRegex.written = cs := by
  induction cs with
  | nil => rfl
  | cons c cs ih =>
    rw [List.map_cons, List.flatMap_cons, ih]
    rfl

theorem written_piece (base : Nat) (piece : Piece) :
    (piece.expression base).written = piece.regexChars base := by
  cases piece with
  | letter c => rfl
  | group cs =>
    rw [group_regexChars]
    simp [Piece.expression, CapturingRegex.written, CapturingRegex.written_chain,
      flatMap_written_char]
  | slot m =>
    rw [slot_regexChars]
    simp [Piece.expression, CapturingRegex.written, CapturingRegex.written_chain, captureChars]

theorem written_expression (template : Template) (base : Nat) :
    (template.expression base).written = (template.regexText base).toList := by
  rw [expression, CapturingRegex.written_chain, regexText, String.toList_ofList,
    List.flatMap_map]
  exact congrArg (template.pieces.flatMap ·) (funext (written_piece base))

end Template

namespace Pattern

open Template

/-- The expressions of templates that are counted from `place`. -/
def bodiesFrom (verb : Verb) : Nat → List Template → List CapturingRegex
  | _, [] => []
  | place, template :: rest =>
    template.expression (base verb place) :: bodiesFrom verb (place + 1) rest

/-- The expression of a pattern: the whole line is an expansion of one of the templates. -/
def expression (pattern : Pattern) : CapturingRegex :=
  .chain [.textStart, .group (.firstOf (bodiesFrom pattern.verb 0 pattern.templates)), .textEnd]

theorem map_written_bodiesFrom (verb : Verb) (place : Nat) (templates : List Template) :
    (bodiesFrom verb place templates).map CapturingRegex.written
      = (templates.mapIdx fun i t => t.regexText (base verb (place + i))).map String.toList := by
  induction templates generalizing place with
  | nil => rfl
  | cons template rest ih =>
    rw [List.mapIdx_cons, List.map_cons, bodiesFrom, List.map_cons, written_expression, ih]
    simp only [Nat.add_zero, Nat.add_assoc, Nat.add_comm 1]

/-- The text of a pattern writes its expression. -/
theorem written_pattern (pattern : Pattern) :
    pattern.expression.written = pattern.regexText.toList := by
  have hbodies := map_written_bodiesFrom pattern.verb 0 pattern.templates
  simp only [Nat.zero_add] at hbodies
  simp [expression, regexText, CapturingRegex.written, CapturingRegex.written_chain,
    CapturingRegex.written_firstOf, hbodies, String.toList_intercalate]

end Pattern

/-! ## Reading the expression -/

namespace Template

open CapturingRegex
open Regex hiding char
open Pattern (captureIndex)

variable {grouped : Bool} {taken : List (List Char)} {branches : List Regex} {items : List Item}
  {rest : List Char} {result : Regex × List (List Char) × List Char}

theorem reads_chars {cs : List Char} (hcs : ∀ c ∈ cs, isPlain c = true)
    (h : Reads grouped taken branches (((cs.map char).map item).reverse ++ items) rest result) :
    Reads grouped taken branches items (cs ++ rest) result := by
  induction cs generalizing items with
  | nil => exact h
  | cons c cs ih =>
    obtain ⟨hc, hcs⟩ := List.forall_mem_cons.1 hcs
    refine Reads.letter hc (ih hcs ?_)
    simpa [item, plain] using h

theorem isNameChar_of_isDigit {c : Char} (h : c.isDigit = true) : isNameChar false c = true :=
  of_isDigit (q := fun c => isNameChar false c = true) (by decide +kernel) h

/-- The names of the captures of pieces, numbered from `base`. -/
def names (base : Nat) (pieces : List Piece) : List (List Char) :=
  (markers pieces).map fun m => (captureName (base + captureIndex m)).toList

theorem names_cons (base : Nat) (piece : Piece) (pieces : List Piece) :
    names base (piece :: pieces) = names base [piece] ++ names base pieces := by
  rw [names, markers, ← List.singleton_append, List.filterMap_append, List.map_append]
  rfl

/-- A piece is read as its expression if the name of its capture is new. -/
theorem reads_piece {base : Nat} {piece : Piece} (hformed : piece.WellFormed)
    (hnames : (names base [piece] ++ taken).Nodup) (hrest : rest.head? ≠ some '?')
    (h : Reads grouped (names base [piece] ++ taken) branches
      (item (piece.expression base) :: items) rest result) :
    Reads grouped taken branches items (piece.regexChars base ++ rest) result := by
  cases piece with
  | letter c => exact Reads.letter hformed h
  | group cs =>
    have hbody : Reads true taken [] [] (cs ++ ')' :: '?' :: rest)
        ((chain (cs.map char)).plain, taken, '?' :: rest) := by
      refine reads_chars hformed.1 ?_
      rw [List.append_nil, ← chain_reverse_items]
      exact reads_close
    have htext : (Piece.group cs).regexChars base ++ rest
        = '(' :: '?' :: ':' :: (cs ++ ')' :: '?' :: rest) := by
      rw [group_regexChars]
      simp
    rw [htext]
    exact Reads.group hbody (Reads.optional hrest h)
  | slot m =>
    have hname : names base [.slot m] = ['o' :: digits (base + captureIndex m)] := by
      simp [names, markers, Piece.marker?, toList_captureName]
    rw [hname] at hnames h
    have hbody : Reads true (('o' :: digits (base + captureIndex m)) :: taken) [] []
        (['\\', 'w', '+'] ++ ')' :: rest) ((chain [repeated wordChar]).plain,
          ('o' :: digits (base + captureIndex m)) :: taken, rest) :=
      Reads.wordChar (Reads.repeated (by simp) reads_close)
    rw [slot_regexChars, captureChars_append]
    refine Reads.capture (by decide +kernel) (fun c hc => ?_) (List.nodup_cons.1 hnames).1 hbody h
    exact isNameChar_of_isDigit (isDigit_of_mem_digits hc)

/-- No piece begins with a question mark. -/
theorem head?_regexChars {base : Nat} {pieces : List Piece}
    (hformed : ∀ piece ∈ pieces, piece.WellFormed) (hrest : rest.head? ≠ some '?') :
    (pieces.flatMap (·.regexChars base) ++ rest).head? ≠ some '?' := by
  match pieces with
  | [] => exact hrest
  | .letter c :: _ =>
    intro h
    obtain rfl : c = '?' := Option.some.inj h
    have hplain : isPlain '?' = true := hformed _ List.mem_cons_self
    exact absurd hplain (by decide)
  | .group _ :: _ =>
    rw [List.flatMap_cons, group_regexChars]
    simp
  | .slot _ :: _ =>
    rw [List.flatMap_cons, slot_regexChars, List.append_assoc, captureChars_append]
    simp

theorem reads_pieces {base : Nat} {pieces : List Piece}
    (hformed : ∀ piece ∈ pieces, piece.WellFormed)
    (hnames : ((names base pieces).reverse ++ taken).Nodup) (hrest : rest.head? ≠ some '?')
    (h : Reads grouped ((names base pieces).reverse ++ taken) branches
      (((pieces.map (·.expression base)).map item).reverse ++ items) rest result) :
    Reads grouped taken branches items (pieces.flatMap (·.regexChars base) ++ rest) result := by
  induction pieces generalizing taken items with
  | nil => exact h
  | cons piece pieces ih =>
    obtain ⟨hpiece, hpieces⟩ := List.forall_mem_cons.1 hformed
    have hsingle : (names base [piece]).reverse = names base [piece] := by
      cases piece <;> rfl
    -- The names are new all together, so they are when the first piece has taken its own.
    rw [names_cons, List.reverse_append, hsingle, List.append_assoc] at hnames h
    rw [List.flatMap_cons, List.append_assoc]
    refine reads_piece hpiece (List.nodup_append'.1 hnames).2.1 (head?_regexChars hpieces hrest)
      (ih hpieces hnames ?_)
    simpa using h

/-- A template is read as its expression if the names of its captures are new. -/
theorem reads_template {base : Nat} {template : Template}
    (hformed : ∀ piece ∈ template.pieces, piece.WellFormed)
    (hnames : ((names base template.pieces).reverse ++ taken).Nodup) (hrest : rest.head? ≠ some '?')
    (h : Reads grouped ((names base template.pieces).reverse ++ taken) branches
      ((template.pieces.map (·.expression base)).map item).reverse rest result) :
    Reads grouped taken branches [] ((template.expression base).written ++ rest) result := by
  rw [written_expression, regexText, String.toList_ofList]
  refine reads_pieces hformed hnames hrest ?_
  rwa [List.append_nil]

end Template

namespace Pattern

open Template CapturingRegex
open Regex

/-- The names of the captures of templates that are counted from `place`. -/
def namesFrom (verb : Verb) : Nat → List Template → List (List Char)
  | _, [] => []
  | place, template :: rest =>
    names (base verb place) template.pieces ++ namesFrom verb (place + 1) rest

theorem reads_bodies {verb : Verb} (rest : List Char) :
    ∀ {templates : List Template} {place : Nat} {taken : List (List Char)} (branches : List Regex),
      templates ≠ [] → (∀ t ∈ templates, ∀ piece ∈ t.pieces, piece.WellFormed) →
      ((namesFrom verb place templates).reverse ++ taken).Nodup →
      Reads true taken branches []
        ((firstOf (bodiesFrom verb place templates)).written ++ ')' :: rest)
        (Regex.choice (firstOf (bodiesFrom verb place templates)).plain branches,
          (namesFrom verb place templates).reverse ++ taken, rest)
  | [template], place, taken, branches, _, hformed, hnames => by
    rw [namesFrom, namesFrom, List.append_nil] at hnames ⊢
    refine reads_template (hformed template List.mem_cons_self) hnames (by simp) ?_
    have hplain : (firstOf (bodiesFrom verb place [template])).plain = Regex.sequence
        ((template.pieces.map (·.expression (base verb place))).map item).reverse :=
      (chain_reverse_items _).symm
    rw [hplain]
    exact reads_close
  | template :: next :: others, place, taken, branches, _, hformed, hnames => by
    obtain ⟨htemplate, hothers⟩ := List.forall_mem_cons.1 hformed
    rw [namesFrom, List.reverse_append, List.append_assoc] at hnames ⊢
    have ih := reads_bodies rest ((template.expression (base verb place)).plain :: branches)
      (by simp) hothers hnames
    have htext : (firstOf (bodiesFrom verb place (template :: next :: others))).written
        = (template.expression (base verb place)).written
          ++ '|' :: (firstOf (bodiesFrom verb (place + 1) (next :: others))).written := rfl
    rw [htext, List.append_assoc, List.cons_append]
    refine reads_template htemplate (List.nodup_append'.1 hnames).2.1 (by simp) (Reads.bar ?_)
    rw [chain_reverse_items]
    exact ih

/-- A pattern of well-formed templates that fit its verb. -/
structure WellFormed (pattern : Pattern) : Prop where
  templates_ne_nil : pattern.templates ≠ []
  pieces : ∀ t ∈ pattern.templates, ∀ piece ∈ t.pieces, piece.WellFormed
  formed : pattern.Formed

/-- The captures of the template at a given place have numbers that no other template's have. -/
theorem exists_of_mem_names {verb : Verb} {place : Nat} {template : Template}
    (hfits : template.Fits verb.arity) {name : List Char}
    (h : name ∈ names (base verb place) template.pieces) :
    ∃ n, base verb place ≤ n ∧ n < base verb (place + 1) ∧ name = (captureName n).toList := by
  obtain ⟨m, hm, rfl⟩ := List.mem_map.1 h
  have hlt := hfits.captureIndex_lt hm
  refine ⟨_, Nat.le_add_right _ _, ?_, rfl⟩
  rw [base, base, Nat.succ_mul]
  exact Nat.add_lt_add_left hlt _

theorem exists_of_mem_namesFrom {verb : Verb} {name : List Char} : ∀ {templates : List Template}
    {place : Nat}, (∀ t ∈ templates, t.Fits verb.arity) → name ∈ namesFrom verb place templates →
      ∃ n, base verb place ≤ n ∧ name = (captureName n).toList
  | [], _, _, h => by cases h
  | template :: rest, place, hfits, h => by
    obtain ⟨htemplate, hrest⟩ := List.forall_mem_cons.1 hfits
    rcases List.mem_append.1 h with h | h
    · obtain ⟨n, hn, -, rfl⟩ := exists_of_mem_names htemplate h
      exact ⟨n, hn, rfl⟩
    · obtain ⟨n, hn, rfl⟩ := exists_of_mem_namesFrom hrest h
      exact ⟨n, Nat.le_trans (Nat.mul_le_mul_right _ (Nat.le_succ place)) hn, rfl⟩

theorem toList_captureName_inj {m n : Nat} :
    (captureName m).toList = (captureName n).toList ↔ m = n := by
  rw [String.toList_inj, captureName_inj]

theorem captureIndex_inj {m m' : Marker} : captureIndex m = captureIndex m' ↔ m = m' := by
  cases m <;> cases m' <;> decide

/-- No two captures of templates have the same name. -/
theorem nodup_namesFrom {verb : Verb} : ∀ {templates : List Template} (place : Nat),
    (∀ t ∈ templates, t.Fits verb.arity) → (namesFrom verb place templates).Nodup
  | [], _, _ => List.nodup_nil
  | template :: rest, place, hfits => by
    obtain ⟨htemplate, hrest⟩ := List.forall_mem_cons.1 hfits
    refine List.nodup_append'.2 ⟨?_, nodup_namesFrom (place + 1) hrest, ?_⟩
    · refine List.Nodup.map (fun m m' h => ?_) htemplate.nodup_markers
      exact captureIndex_inj.1 (Nat.add_left_cancel (toList_captureName_inj.1 h))
    · intro name hname hname'
      obtain ⟨n, -, hlt, rfl⟩ := exists_of_mem_names htemplate hname
      obtain ⟨n', hle, heq⟩ := exists_of_mem_namesFrom hrest hname'
      rw [toList_captureName_inj] at heq
      omega

/-- The text of a well-formed pattern is read as its expression. -/
theorem parse?_regexText {pattern : Pattern} (h : pattern.WellFormed) :
    Regex.parse? pattern.regexText = some pattern.expression.plain := by
  obtain ⟨verb, templates⟩ := pattern
  have hnames : ((namesFrom verb 0 templates).reverse ++ []).Nodup := by
    simpa using nodup_namesFrom 0 h.formed
  have hbody := reads_bodies ['$'] [] h.templates_ne_nil h.pieces hnames
  rw [expression]
  generalize htext : regexText ⟨verb, templates⟩ = text
  have htext : text.toList = '^' :: '(' :: '?' :: ':' ::
      ((firstOf (bodiesFrom verb 0 templates)).written ++ [')', '$']) := by
    rw [← htext, ← written_pattern]
    simp [expression, written_chain, written]
  generalize firstOf (bodiesFrom verb 0 templates) = body at hbody htext
  have hreads : Reads false [] [] [] text.toList
      ((CapturingRegex.chain [.textStart, .group body, .textEnd]).plain, _, []) :=
    htext ▸ Reads.textStart (Reads.group hbody (Reads.textEnd reads_nil))
  rw [Regex.parse?, hreads _ (Nat.lt_succ_self _)]
  rfl

end Pattern

end Adventure
