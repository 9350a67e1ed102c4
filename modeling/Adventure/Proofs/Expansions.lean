import Adventure.Proofs.Arenas
import Adventure.Proofs.Captures

/-!
# Expansions of templates

A line is an expansion of a template if it comes about from the template's text by keeping each
group without its brackets or leaving it out and by putting a word for each marker (`Expands`). The
matcher finds a reading of a line exactly if there is one (`Template.isSome_match?_iff`), and what
it binds are the words of a reading (`Template.expands_of_match?`).

The relation speaks of the text and the matcher of the pieces, so the relation is first taken
apart by pieces. The induction is then over the pieces, as the matcher goes: it gives up on a group
that is kept only if there is no reading with it, and it tries every word that may stand for a
marker.
-/

namespace Adventure

namespace Template

/-- A line is an expansion of a text in which each marker stands for the given word. -/
inductive Expands (words : Marker → List Char) : List Char → List Char → Prop
  | nil : Expands words [] []
  | plain {c : Char} {text line : List Char} (hc : isPlain c = true)
      (h : Expands words text line) : Expands words (c :: text) (c :: line)
  | kept {g text line : List Char} (hg : ∀ c ∈ g, isPlain c = true)
      (h : Expands words text line) : Expands words ('[' :: (g ++ ']' :: text)) (g ++ line)
  | dropped {g text line : List Char} (hg : ∀ c ∈ g, isPlain c = true)
      (h : Expands words text line) : Expands words ('[' :: (g ++ ']' :: text)) line
  | marker {m : Marker} {text line : List Char} (hm : words m ≠ [])
      (hword : ∀ c ∈ words m, Unicode.isWordChar c = true) (h : Expands words text line) :
      Expands words ('<' :: m.letter :: '>' :: text) (words m ++ line)

/-! ## Expansions by pieces -/

section

variable {words : Marker → List Char} {text line : List Char}

/-- Where a text goes on after the first bracket that closes is determined. -/
theorem append_bracket_inj {g g' text' : List Char} (hg : ']' ∉ g) (hg' : ']' ∉ g')
    (h : g ++ ']' :: text = g' ++ ']' :: text') : g = g' ∧ text = text' := by
  induction g generalizing g' with
  | nil =>
    cases g' with
    | nil => exact ⟨rfl, (List.cons.inj h).2⟩
    | cons c g' => exact absurd (List.mem_cons.2 (.inl (List.cons.inj h).1)) hg'
  | cons c g ih =>
    cases g' with
    | nil => exact absurd (List.mem_cons.2 (.inl (List.cons.inj h).1.symm)) hg
    | cons c' g' =>
      obtain ⟨rfl, hrest⟩ := List.cons.inj h
      obtain ⟨rfl, rfl⟩ := ih (List.not_mem_of_not_mem_cons hg) (List.not_mem_of_not_mem_cons hg')
        hrest
      exact ⟨rfl, rfl⟩

theorem notMem_bracket {g : List Char} (hg : ∀ c ∈ g, isPlain c = true) : ']' ∉ g := fun hmem =>
  absurd (hg _ hmem) (by decide)

theorem expands_nil : Expands words [] line ↔ line = [] := by
  constructor
  · rintro ⟨⟩
    rfl
  · rintro rfl
    exact .nil

theorem expands_plain {c : Char} (hc : isPlain c = true) :
    Expands words (c :: text) line ↔ ∃ rest, line = c :: rest ∧ Expands words text rest := by
  constructor
  · intro h
    cases h with
    | plain _ h => exact ⟨_, rfl, h⟩
    | kept | dropped | marker => exact absurd hc (by decide)
  · rintro ⟨rest, rfl, h⟩
    exact .plain hc h

theorem expands_group {g : List Char} (hg : ∀ c ∈ g, isPlain c = true) :
    Expands words ('[' :: (g ++ ']' :: text)) line ↔
      (∃ rest, line = g ++ rest ∧ Expands words text rest) ∨ Expands words text line := by
  constructor
  · intro h
    generalize htext : '[' :: (g ++ ']' :: text) = whole at h
    cases h with
    | nil | marker => cases htext
    | plain hc _ =>
      obtain ⟨rfl, -⟩ := List.cons.inj htext
      exact absurd hc (by decide)
    | kept hg' h =>
      obtain ⟨rfl, rfl⟩ := append_bracket_inj (notMem_bracket hg) (notMem_bracket hg')
        (List.cons.inj htext).2
      exact .inl ⟨_, rfl, h⟩
    | dropped hg' h =>
      obtain ⟨rfl, rfl⟩ := append_bracket_inj (notMem_bracket hg) (notMem_bracket hg')
        (List.cons.inj htext).2
      exact .inr h
  · rintro (⟨rest, rfl, h⟩ | h)
    · exact .kept hg h
    · exact .dropped hg h

theorem expands_marker (m : Marker) : Expands words ('<' :: m.letter :: '>' :: text) line ↔
    ∃ rest, line = words m ++ rest ∧ words m ≠ [] ∧
      (∀ c ∈ words m, Unicode.isWordChar c = true) ∧ Expands words text rest := by
  constructor
  · intro h
    generalize htext : '<' :: m.letter :: '>' :: text = whole at h
    cases h with
    | nil | kept | dropped => cases htext
    | plain hc _ =>
      obtain ⟨rfl, -⟩ := List.cons.inj htext
      exact absurd hc (by decide)
    | @marker m' _ _ hm hword h =>
      simp only [List.cons.injEq, true_and] at htext
      obtain rfl : m = m' := by cases m <;> cases m' <;> simp_all [Marker.letter]
      exact ⟨_, rfl, hm, hword, htext.2 ▸ h⟩
  · rintro ⟨rest, rfl, hm, hword, h⟩
    exact .marker hm hword h

end

/-! ## Words -/

/-- A word that a marker may stand for at the beginning of a line. -/
structure IsWord (word : List Char) : Prop where
  ne_nil : word ≠ []
  isWordChar : ∀ c ∈ word, Unicode.isWordChar c = true

theorem IsWord.length_le {word rest : List Char} (h : IsWord word) :
    word.length ≤ ((word ++ rest).takeWhile Unicode.isWordChar).length := by
  rw [List.takeWhile_append_of_pos h.isWordChar, List.length_append]
  exact Nat.le_add_right _ _

/-- A beginning of a line within its first run of word characters is a word. -/
theorem isWord_take {cs : List Char} {k : Nat}
    (hk : k < (cs.takeWhile Unicode.isWordChar).length) : IsWord (cs.take (k + 1)) := by
  have htake : cs.take (k + 1) = (cs.takeWhile Unicode.isWordChar).take (k + 1) := by
    conv_lhs => rw [← List.takeWhile_append_dropWhile (p := Unicode.isWordChar) (l := cs)]
    exact List.take_append_of_le_length hk
  rw [htake]
  refine ⟨?_, fun c hc => ?_⟩
  · rw [← List.length_pos_iff, List.length_take]
    omega
  · exact List.all_eq_true.1 List.all_takeWhile c (List.mem_of_mem_take hc)

/-- If a beginning of the line is accepted with the rest, one is found. -/
theorem isSome_longestWord {α : Type} {word rest : List Char}
    {accept : List Char → List Char → Option α} (hword : word ≠ []) {n : Nat}
    (hn : word.length ≤ n) (haccept : (accept word rest).isSome = true) :
    (longestWord (word ++ rest) accept n).isSome = true := by
  induction n with
  | zero => exact absurd (List.length_eq_zero_iff.1 (Nat.le_zero.1 hn)) hword
  | succ n ih =>
    unfold longestWord
    split
    · rfl
    · rename_i hnone
      refine ih (Nat.lt_succ_iff.1 (Nat.lt_of_le_of_ne hn ?_))
      intro (hlength : word.length = n + 1)
      rw [← hlength, List.take_left, List.drop_left] at hnone
      rw [hnone] at haccept
      cases haccept

/-! ## The matcher -/

theorem flatMap_chars_group (g : List Char) (pieces : List Piece) :
    (Piece.group g :: pieces).flatMap Piece.chars
      = '[' :: (g ++ ']' :: pieces.flatMap Piece.chars) := by
  simp [Piece.chars]

/-- A match binds the words of a reading of the line. -/
theorem expands_of_matchPieces? {words : Marker → List Char} :
    ∀ {pieces : List Piece} {line : List Char} {bindings : Bindings},
      (∀ piece ∈ pieces, piece.WellFormed) → (∀ b ∈ bindings, words b.1 = b.2) →
      matchPieces? pieces line = some bindings → Expands words (pieces.flatMap Piece.chars) line
  | [], [], _, _, _, _ => .nil
  | [], _ :: _, _, _, _, h => by cases h
  | .letter _ :: _, [], _, _, _, h => by cases h
  | .letter c :: pieces, x :: line, bindings, hformed, hwords, h => by
    obtain ⟨hc, hrest⟩ := List.forall_mem_cons.1 hformed
    unfold matchPieces? at h
    split at h
    · rename_i hx
      exact (expands_plain hc).2 ⟨line, hx ▸ rfl, expands_of_matchPieces? hrest hwords h⟩
    · cases h
  | .group g :: pieces, line, bindings, hformed, hwords, h => by
    obtain ⟨hg, hrest⟩ := List.forall_mem_cons.1 hformed
    rw [flatMap_chars_group, expands_group hg.1]
    unfold matchPieces? at h
    split at h
    · rename_i heq
      obtain rfl := Option.some.inj h
      split at heq
      · rename_i hstarts
        obtain ⟨rest, rfl⟩ := List.isPrefixOf_iff_prefix.1 hstarts
        rw [List.drop_left] at heq
        exact .inl ⟨rest, rfl, expands_of_matchPieces? hrest hwords heq⟩
      · cases heq
    · exact .inr (expands_of_matchPieces? hrest hwords h)
  | .slot m :: pieces, line, bindings, hformed, hwords, h => by
    obtain ⟨-, hrest⟩ := List.forall_mem_cons.1 hformed
    unfold matchPieces? at h
    obtain ⟨k, hk, haccept⟩ := longestWord_eq_some h
    obtain ⟨others, hothers, rfl⟩ := Option.map_eq_some_iff.1 haccept
    obtain ⟨hm, hwords⟩ := List.forall_mem_cons.1 hwords
    replace hm : words m = line.take (k + 1) := hm
    have hword : IsWord (words m) := hm ▸ isWord_take hk
    exact (expands_marker m).2 ⟨line.drop (k + 1), by rw [hm, List.take_append_drop],
      hword.ne_nil, hword.isWordChar, expands_of_matchPieces? hrest hwords hothers⟩

/-- If a line is an expansion, the matcher finds a reading. -/
theorem isSome_matchPieces? {words : Marker → List Char} :
    ∀ {pieces : List Piece} {line : List Char}, (∀ piece ∈ pieces, piece.WellFormed) →
      Expands words (pieces.flatMap Piece.chars) line →
      (matchPieces? pieces line).isSome = true
  | [], line, _, h => by
    obtain rfl := expands_nil.1 h
    rfl
  | .letter c :: pieces, line, hformed, h => by
    obtain ⟨hc, hrest⟩ := List.forall_mem_cons.1 hformed
    obtain ⟨line, rfl, hline⟩ := (expands_plain hc).1 h
    simpa [matchPieces?] using isSome_matchPieces? hrest hline
  | .group g :: pieces, line, hformed, h => by
    obtain ⟨hg, hrest⟩ := List.forall_mem_cons.1 hformed
    rw [flatMap_chars_group, expands_group hg.1] at h
    unfold matchPieces?
    split
    · rfl
    · rename_i hnone
      rcases h with ⟨line, rfl, hline⟩ | hline
      · rw [if_pos (List.isPrefixOf_iff_prefix.2 (List.prefix_append _ _)), List.drop_left] at hnone
        have hsome := isSome_matchPieces? hrest hline
        rw [hnone] at hsome
        cases hsome
      · exact isSome_matchPieces? hrest hline
  | .slot m :: pieces, line, hformed, h => by
    obtain ⟨-, hrest⟩ := List.forall_mem_cons.1 hformed
    obtain ⟨line, rfl, hm, hchars, hline⟩ := (expands_marker m).1 h
    have hsome := isSome_matchPieces? hrest hline
    have hword : IsWord (words m) := ⟨hm, hchars⟩
    unfold matchPieces?
    exact isSome_longestWord hm hword.length_le (by simpa using hsome)

/-! ## Templates -/

/-- The words that bindings give the markers. -/
def wordOf (bindings : Bindings) (m : Marker) : List Char := (bindings.lookup m).getD []

section

variable {arity : Nat} {text : String} {template : Template} {line : List Char}
  (h : parse? arity text = .ok template)
include h

/-- A match binds the words of a reading of the line. -/
theorem expands_of_match? {bindings : Bindings} (hmatch : template.match? line = some bindings) :
    Expands (wordOf bindings) text.toList line := by
  have hcomposed := parse?_eq_ok_iff.1 h
  rw [hcomposed.chars_eq]
  refine expands_of_matchPieces? hcomposed.wellFormed ?_ hmatch
  have hnodup : (bindings.map (·.1)).Nodup :=
    markers_of_matchPieces? hmatch ▸ (fits_of_parse? h).nodup_markers
  rintro ⟨m, word⟩ hmem
  rw [wordOf, (Arena.mem_iff_lookup hnodup).1 hmem, Option.getD_some]

/-- A line matches a template exactly if it is an expansion of the template's text. -/
theorem isSome_match?_iff :
    (template.match? line).isSome = true ↔ ∃ words, Expands words text.toList line := by
  have hcomposed := parse?_eq_ok_iff.1 h
  constructor
  · intro hsome
    obtain ⟨bindings, hmatch⟩ := Option.isSome_iff_exists.1 hsome
    exact ⟨_, expands_of_match? h hmatch⟩
  · rintro ⟨words, hwords⟩
    rw [hcomposed.chars_eq] at hwords
    exact isSome_matchPieces? hcomposed.wellFormed hwords

end

end Template

end Adventure
