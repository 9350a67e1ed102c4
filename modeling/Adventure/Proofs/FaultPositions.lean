import Adventure.Proofs.TemplateGrammar

/-!
# Where a template is at fault

An error that carries a position points at the character at fault (`TemplateError.PointsAt`): at a
bracket without a partner, at a character that may not stand in a template, and so on. Three steps
of reading report positions. The scanner counts the characters that it has taken up (`Placed`). The
check of the brackets reports the position of a token, or the one at which the open group began;
what it has seen says how the text before the token is bracketed (`Surveyed`). The rules about
spaces are checked first of all, and there the position is counted in bytes: it is the index of the
first of the two spaces only if all characters before it take up one byte (`Template.points_exact`).
-/

namespace Adventure

namespace Template

/-! ## Brackets and their partners -/

/-- As many brackets are opened as closed, and never more closed than opened so far. -/
structure Balanced (cs : List Char) : Prop where
  total : cs.count ']' = cs.count '['
  within : ∀ n, (cs.take n).count ']' ≤ (cs.take n).count '['

/-- The brackets at two places belong together: what is between them is balanced. -/
structure Paired (cs : List Char) (p q : Nat) : Prop where
  lt : p < q
  opening : cs[p]? = some '['
  closing : cs[q]? = some ']'
  balanced : Balanced ((cs.take q).drop (p + 1))

/-- A bracket has been opened before a place and not closed since. -/
def OpenBefore (cs : List Char) (p : Nat) : Prop :=
  ∃ q < p, cs[q]? = some '[' ∧ ']' ∉ (cs.take p).drop (q + 1)

/-- A marker begins at a place. -/
def MarkerAt (cs : List Char) (p : Nat) : Prop :=
  ∃ m : Marker, ['<', m.letter, '>'] <+: cs.drop p

/-- Two spaces in a row begin at a place and nowhere before it. -/
structure FirstDoubleSpace (cs : List Char) (p : Nat) : Prop where
  first : cs[p]? = some ' '
  second : cs[p + 1]? = some ' '
  earliest : ∀ q < p, ¬ (cs[q]? = some ' ' ∧ cs[q + 1]? = some ' ')

end Template

namespace TemplateError

open Template

/-- The position in an error is the place of the character at fault. Errors about the template as a
whole have none. -/
def PointsAt (cs : List Char) : TemplateError → Prop
  | doubleSpace p => FirstDoubleSpace cs p
  | invalidCharacter c p =>
    cs[p]? = some c ∧ isPlain c = false ∧ c ≠ '[' ∧ c ≠ ']' ∧ ¬ MarkerAt cs p
  | unbalancedBracket p =>
    (cs[p]? = some '[' ∨ cs[p]? = some ']') ∧ ∀ q, ¬ Paired cs p q ∧ ¬ Paired cs q p
  | nestedBracket p => cs[p]? = some '[' ∧ OpenBefore cs p
  | emptyBracket p =>
    cs[p]? = some '[' ∧ ∃ q, Paired cs p q ∧ ∀ c ∈ (cs.take q).drop (p + 1), isLetter c = false
  | markerInBracket p => cs[p]? = some '<' ∧ MarkerAt cs p ∧ OpenBefore cs p
  | empty | outerSpace | noLiteralWord | markerCount _ _ _ => True

end TemplateError

namespace Template

variable {before after g : List Char}

/-! ## Balanced texts -/

theorem balanced_nil : Balanced [] := ⟨rfl, fun _ => by simp⟩

theorem Balanced.append (h : Balanced before) (h' : Balanced after) :
    Balanced (before ++ after) := by
  constructor
  · rw [List.count_append, List.count_append, h.total, h'.total]
  · intro n
    rw [List.take_append, List.count_append, List.count_append]
    exact Nat.add_le_add (h.within n) (h'.within _)

theorem count_take_of_free (hg : ∀ c ∈ g, c ≠ '[' ∧ c ≠ ']') (n : Nat) :
    (g.take n).count '[' = 0 ∧ (g.take n).count ']' = 0 := by
  simp only [List.count_eq_zero]
  constructor
  · exact fun hmem => (hg _ (List.mem_of_mem_take hmem)).1 rfl
  · exact fun hmem => (hg _ (List.mem_of_mem_take hmem)).2 rfl

/-- A text without brackets is balanced. -/
theorem balanced_of_free (hg : ∀ c ∈ g, c ≠ '[' ∧ c ≠ ']') : Balanced g := by
  have hcount := count_take_of_free hg
  constructor
  · have hwhole := hcount g.length
    rw [List.take_length] at hwhole
    rw [hwhole.1, hwhole.2]
  · intro n
    rw [(hcount n).2]
    exact Nat.zero_le _

/-- So is a group. -/
theorem balanced_group (hg : ∀ c ∈ g, c ≠ '[' ∧ c ≠ ']') : Balanced ('[' :: (g ++ [']'])) := by
  have hcount := count_take_of_free hg
  constructor
  · have hwhole := hcount g.length
    rw [List.take_length] at hwhole
    simp [hwhole.1, hwhole.2]
  · rintro (_ | n)
    · exact Nat.le_refl _
    · rw [List.take_succ_cons, List.take_append, List.count_cons, List.count_cons,
        List.count_append, List.count_append, (hcount n).1, (hcount n).2]
      have hclosing : ([']'].take (n - g.length)).count ']' ≤ 1 :=
        (List.take_sublist _ _).count_le _
      simp
      omega

/-- The bracket that closes no group has no partner before it. -/
theorem Balanced.not_opening (h : Balanced (before ++ '[' :: after)) : ¬ Balanced after := by
  intro hafter
  have hprefix := h.within before.length
  have htotal := h.total
  rw [List.take_left] at hprefix
  simp [List.count_append, hafter.total] at htotal
  omega

/-! ## Places in a text -/

/-- Between two brackets of a text stands what they enclose. -/
theorem between_brackets (before g after : List Char) :
    ((before ++ '[' :: (g ++ after)).take (before ++ '[' :: g).length).drop (before.length + 1)
      = g := by
  have htake : (before ++ '[' :: (g ++ after)).take (before ++ '[' :: g).length
      = before ++ '[' :: g := by
    rw [← List.cons_append, ← List.append_assoc, List.take_left]
  rw [htake, ← List.drop_drop, List.drop_left, List.drop_succ_cons, List.drop_zero]

theorem openBefore_append (hg : ']' ∉ g) :
    OpenBefore (before ++ '[' :: (g ++ after)) (before ++ '[' :: g).length := by
  refine ⟨before.length, by simp, by simp, ?_⟩
  rwa [between_brackets]

theorem paired_append (hg : Balanced g) :
    Paired (before ++ '[' :: (g ++ ']' :: after)) before.length (before ++ '[' :: g).length := by
  refine ⟨by simp, by simp, by simp, ?_⟩
  rwa [between_brackets]

/-- A bracket that nothing closes after it has no partner. -/
theorem unpaired_opening (hg : ']' ∉ g) (q : Nat) :
    ¬ Paired (before ++ '[' :: g) before.length q ∧
      ¬ Paired (before ++ '[' :: g) q before.length := by
  constructor
  · rintro ⟨hlt, -, hclosing, -⟩
    rw [List.getElem?_append_right (by omega)] at hclosing
    obtain ⟨k, hk⟩ : ∃ k, q - before.length = k + 1 := ⟨q - before.length - 1, by omega⟩
    rw [hk, List.getElem?_cons_succ] at hclosing
    exact hg (List.mem_of_getElem? hclosing)
  · rintro ⟨-, -, hclosing, -⟩
    simp at hclosing

/-- A bracket that closes no group has no partner. -/
theorem unpaired_closing (h : Balanced before) (q : Nat) :
    ¬ Paired (before ++ ']' :: after) before.length q ∧
      ¬ Paired (before ++ ']' :: after) q before.length := by
  constructor
  · rintro ⟨-, hopening, -, -⟩
    simp at hopening
  · rintro ⟨hlt, hopening, -, hbalanced⟩
    rw [List.take_left] at hbalanced
    rw [List.getElem?_append_left hlt] at hopening
    have hsplit : before = before.take q ++ '[' :: before.drop (q + 1) := by
      obtain ⟨_, hq⟩ := List.getElem?_eq_some_iff.1 hopening
      rw [← hq, List.getElem_cons_drop, List.take_append_drop]
    rw [hsplit] at h
    exact h.not_opening hbalanced

/-! ## Tokens at their places -/

/-- Tokens have the places at which their texts begin, where the first one begins at `n`. -/
inductive Placed : Nat → List (Nat × Token) → Prop
  | nil {n : Nat} : Placed n []
  | cons {n : Nat} {token : Token} {rest : List (Nat × Token)}
      (rest_placed : Placed (n + token.chars.length) rest) : Placed n ((n, token) :: rest)

/-- A scan puts the tokens at their places. -/
theorem placed_of_scan {n : Nat} {cs : List Char} {placed : List (Nat × Token)}
    (h : scan n cs = .ok placed) : Placed n placed := by
  have hscanned := scanned_scan n cs
  generalize scan n cs = result at h hscanned
  induction hscanned generalizing placed with
  | nil =>
    obtain rfl := Except.ok.inj h
    exact .nil
  | @token n token rest result _ _ ih =>
    cases result with
    | error => cases h
    | ok others =>
      obtain rfl := Except.ok.inj h
      exact .cons (ih rfl)
  | stuck => cases h

/-! ## The check of the brackets -/

/-- A text up to which the brackets have been checked: it is balanced, or what follows the bracket
that is open has no bracket, and no letter unless one has been seen there. -/
inductive Surveyed (seen : Brackets) : List Char → Prop
  | closed {before : List Char} (openAt_eq : seen.openAt = none) (balanced : Balanced before) :
      Surveyed seen before
  | inGroup {before g : List Char} (openAt_eq : seen.openAt = some before.length)
      (balanced : Balanced before) (free : ∀ c ∈ g, c ≠ '[' ∧ c ≠ ']')
      (letters : seen.letterInside = false → ∀ c ∈ g, isLetter c = false) :
      Surveyed seen (before ++ '[' :: g)

theorem Surveyed.balanced {seen : Brackets} (h : Surveyed seen before)
    (hclosed : seen.openAt = none) : Balanced before := by
  cases h with
  | closed _ hbalanced => exact hbalanced
  | inGroup hopen => rw [hopen] at hclosed; cases hclosed

theorem Surveyed.exists_group {seen : Brackets} {start : Nat} (h : Surveyed seen before)
    (hopen : seen.openAt = some start) : ∃ head g, before = head ++ '[' :: g ∧ start = head.length ∧
      Balanced head ∧ (∀ c ∈ g, c ≠ '[' ∧ c ≠ ']') ∧
      (seen.letterInside = false → ∀ c ∈ g, isLetter c = false) := by
  cases h with
  | closed hclosed => rw [hclosed] at hopen; cases hopen
  | inGroup hstart hbalanced hfree hletters =>
    exact ⟨_, _, rfl, Option.some.inj (hopen ▸ hstart), hbalanced, hfree, hletters⟩

theorem notMem_of_free (hg : ∀ c ∈ g, c ≠ '[' ∧ c ≠ ']') : ']' ∉ g := fun hmem =>
  (hg _ hmem).2 rfl

theorem free_of_isPlain {c : Char} (h : isPlain c = true) : ∀ d ∈ [c], d ≠ '[' ∧ d ≠ ']' := by
  obtain ⟨-, hopening, hclosing⟩ := ne_of_isPlain h
  simp [hopening, hclosing]

/-- A letter or a space leaves the brackets as they are. -/
theorem Surveyed.append_plain {seen seen' : Brackets} {c : Char} (h : Surveyed seen before)
    (hc : isPlain c = true) (hopen : seen'.openAt = seen.openAt)
    (hletters : seen.openAt.isSome = true → seen'.letterInside = false →
      seen.letterInside = false ∧ isLetter c = false) : Surveyed seen' (before ++ [c]) := by
  have hfree := free_of_isPlain hc
  cases h with
  | closed hclosed hbalanced =>
    exact .closed (hopen.trans hclosed) (hbalanced.append (balanced_of_free hfree))
  | @inGroup head g hstart hbalanced hg hinside =>
    have htext : head ++ '[' :: g ++ [c] = head ++ '[' :: (g ++ [c]) := by simp
    rw [htext]
    refine .inGroup (hopen.trans hstart) hbalanced
      (List.forall_mem_append.2 ⟨hg, hfree⟩) fun hnone => ?_
    obtain ⟨hbefore, hnew⟩ := hletters (by rw [hstart]; rfl) hnone
    exact List.forall_mem_append.2 ⟨hinside hbefore, List.forall_mem_singleton.2 hnew⟩

/-- After a token the check goes on with the text before it and the text of the token. -/
theorem pointsAt_cons {n : Nat} {token : Token} {rest : List (Nat × Token)} {e : TemplateError}
    (hplaced : Placed before.length ((n, token) :: rest))
    (h : Placed (before ++ token.chars).length rest →
      e.PointsAt (before ++ token.chars ++ (rest.map (·.2)).flatMap Token.chars)) :
    e.PointsAt (before ++ (((n, token) :: rest).map (·.2)).flatMap Token.chars) := by
  cases hplaced with
  | cons hrest =>
    rw [List.map_cons, List.flatMap_cons, ← List.append_assoc]
    exact h (by rwa [List.length_append])

/-! ### Errors about brackets -/

theorem pointsAt_unclosed (hg : ']' ∉ g) :
    (TemplateError.unbalancedBracket before.length).PointsAt (before ++ '[' :: g) :=
  ⟨.inl (by simp), unpaired_opening hg⟩

theorem pointsAt_unopened (h : Balanced before) :
    (TemplateError.unbalancedBracket before.length).PointsAt (before ++ ']' :: after) :=
  ⟨.inr (by simp), unpaired_closing h⟩

theorem pointsAt_nested (hg : ']' ∉ g) :
    (TemplateError.nestedBracket (before ++ '[' :: g).length).PointsAt
      (before ++ '[' :: g ++ '[' :: after) := by
  refine ⟨by simp, ?_⟩
  rw [List.append_assoc, List.cons_append]
  exact openBefore_append hg

theorem pointsAt_marker (hg : ']' ∉ g) (m : Marker) :
    (TemplateError.markerInBracket (before ++ '[' :: g).length).PointsAt
      (before ++ '[' :: g ++ ((Token.marker m).chars ++ after)) := by
  refine ⟨by simp [Token.chars], ⟨m, by simp [Token.chars]⟩, ?_⟩
  rw [List.append_assoc, List.cons_append]
  exact openBefore_append hg

/-- A group without a letter is reported where it begins. -/
theorem pointsAt_emptyGroup (hg : ∀ c ∈ g, c ≠ '[' ∧ c ≠ ']')
    (hletters : ∀ c ∈ g, isLetter c = false) :
    (TemplateError.emptyBracket before.length).PointsAt (before ++ '[' :: g ++ ']' :: after) := by
  rw [List.append_assoc, List.cons_append]
  have hpaired : Paired (before ++ '[' :: (g ++ ']' :: after)) before.length
      (before ++ '[' :: g).length := paired_append (balanced_of_free hg)
  refine ⟨hpaired.opening, _, hpaired, ?_⟩
  rwa [between_brackets]

/-- An error of the check points at the character at fault. The induction is along the tokens, with
the text that has been checked before them. -/
theorem pointsAt_of_checkBrackets {seen : Brackets} {placed : List (Nat × Token)}
    {e : TemplateError} (h : checkBrackets seen placed = .error e)
    (hplaced : Placed before.length placed) (hplain : ∀ t ∈ placed.map (·.2), t.Plain)
    (hseen : Surveyed seen before) :
    e.PointsAt (before ++ (placed.map (·.2)).flatMap Token.chars) := by
  induction placed generalizing seen before with
  | nil =>
    cases hopen : seen.openAt with
    | some start =>
      obtain rfl := Except.error.inj (by simpa only [checkBrackets, hopen] using h)
      obtain ⟨head, g, rfl, rfl, -, hfree, -⟩ := hseen.exists_group hopen
      rw [List.map_nil, List.flatMap_nil, List.append_nil]
      exact pointsAt_unclosed (notMem_of_free hfree)
    | none =>
      cases houtside : seen.letterOutside with
      | true => simp [checkBrackets, hopen, houtside] at h
      | false =>
        simp only [checkBrackets, hopen, houtside] at h
        obtain rfl := Except.error.inj h
        trivial
  | cons placedToken rest ih =>
    obtain ⟨n, token⟩ := placedToken
    obtain ⟨htoken, hothers⟩ := List.forall_mem_cons.1 hplain
    cases hopen : seen.openAt with
    | none =>
      have hbalanced := hseen.balanced hopen
      cases token with
      | opening =>
        simp only [checkBrackets, hopen] at h
        have hnext : Surveyed ⟨some n, false, seen.letterOutside⟩ (before ++ ['[']) := by
          cases hplaced
          exact .inGroup rfl hbalanced (List.forall_mem_nil _) fun _ => List.forall_mem_nil _
        exact pointsAt_cons hplaced fun hrest => ih h hrest hothers hnext
      | closing =>
        simp only [checkBrackets, hopen] at h
        obtain rfl := Except.error.inj h
        cases hplaced
        exact pointsAt_unopened hbalanced
      | marker m =>
        simp only [checkBrackets, hopen] at h
        have hfree : ∀ c ∈ (Token.marker m).chars, c ≠ '[' ∧ c ≠ ']' := by
          cases m <;> simp [Token.chars, Marker.letter]
        have hnext : Surveyed seen (before ++ (Token.marker m).chars) :=
          .closed hopen (hbalanced.append (balanced_of_free hfree))
        exact pointsAt_cons hplaced fun hrest => ih h hrest hothers hnext
      | letter c =>
        cases hletter : isLetter c with
        | false =>
          simp only [checkBrackets, hopen, hletter, Bool.not_false, if_true] at h
          have hnext : Surveyed seen (before ++ [c]) :=
            hseen.append_plain htoken rfl fun _ hnone => ⟨hnone, hletter⟩
          exact pointsAt_cons hplaced fun hrest => ih h hrest hothers hnext
        | true =>
          simp only [checkBrackets, hopen, hletter] at h
          have hnext : Surveyed ⟨none, seen.letterInside, true⟩ (before ++ [c]) :=
            hseen.append_plain htoken hopen.symm fun hgroup => by simp [hopen] at hgroup
          exact pointsAt_cons hplaced fun hrest => ih h hrest hothers hnext
    | some start =>
      obtain ⟨head, g, rfl, rfl, hbalanced, hfree, hletters⟩ := hseen.exists_group hopen
      cases token with
      | opening =>
        simp only [checkBrackets, hopen] at h
        obtain rfl := Except.error.inj h
        cases hplaced
        exact pointsAt_nested (notMem_of_free hfree)
      | marker m =>
        simp only [checkBrackets, hopen] at h
        obtain rfl := Except.error.inj h
        cases hplaced
        exact pointsAt_marker (notMem_of_free hfree) m
      | closing =>
        cases hinside : seen.letterInside with
        | false =>
          simp only [checkBrackets, hopen, hinside] at h
          obtain rfl := Except.error.inj h
          exact pointsAt_emptyGroup hfree (hletters hinside)
        | true =>
          simp only [checkBrackets, hopen, hinside, if_true] at h
          have hnext : Surveyed ⟨none, true, seen.letterOutside⟩ (head ++ '[' :: g ++ [']']) := by
            rw [List.append_assoc, List.cons_append]
            exact .closed rfl (hbalanced.append (balanced_group hfree))
          exact pointsAt_cons hplaced fun hrest => ih h hrest hothers hnext
      | letter c =>
        cases hletter : isLetter c with
        | false =>
          simp only [checkBrackets, hopen, hletter, Bool.not_false, if_true] at h
          have hnext : Surveyed seen (head ++ '[' :: g ++ [c]) :=
            hseen.append_plain htoken rfl fun _ hnone => ⟨hnone, hletter⟩
          exact pointsAt_cons hplaced fun hrest => ih h hrest hothers hnext
        | true =>
          simp only [checkBrackets, hopen, hletter] at h
          have hnext : Surveyed ⟨some head.length, true, seen.letterOutside⟩
              (head ++ '[' :: g ++ [c]) :=
            hseen.append_plain htoken hopen.symm fun _ hnone => Bool.noConfusion hnone
          exact pointsAt_cons hplaced fun hrest => ih h hrest hothers hnext

/-! ## The scanner -/

/-- An error of the scanner points at a character that may not stand in a template. The text before
grows by the text of each token that is taken up. -/
theorem pointsAt_of_scan (before : List Char) {n : Nat} {rest : List Char} {e : TemplateError}
    (h : scan n rest = .error e) (hn : n = before.length) : e.PointsAt (before ++ rest) := by
  have hscanned := scanned_scan n rest
  generalize scan n rest = result at h hscanned
  induction hscanned generalizing before with
  | nil => cases h
  | @token n token rest result _ _ ih =>
    cases result with
    | ok => cases h
    | error e' =>
      obtain rfl := Except.error.inj h
      rw [← List.append_assoc]
      exact ih (before ++ token.chars) (by rw [List.length_append, hn]) rfl
  | @stuck n c rest foreign =>
    obtain rfl := Except.error.inj h
    subst hn
    have hfirst : ∀ token : Token, token.Plain → token.chars ≠ [c] := fun token hplain heq =>
      foreign token hplain (heq ▸ ⟨rest, rfl⟩)
    refine ⟨by simp, ?_, ?_, ?_, ?_⟩
    · exact Bool.eq_false_iff.2 fun hplain => hfirst (.letter c) hplain rfl
    · rintro rfl
      exact hfirst .opening Token.plain_opening rfl
    · rintro rfl
      exact hfirst .closing Token.plain_closing rfl
    · rintro ⟨m, hmarker⟩
      rw [List.drop_left] at hmarker
      exact foreign (.marker m) (Token.plain_marker m) hmarker

/-! ## Spaces -/

/-- How many bytes a text takes up. -/
def bytes : List Char → Nat
  | [] => 0
  | c :: rest => c.utf8Size + bytes rest

theorem FirstDoubleSpace.unique {cs : List Char} {p q : Nat} (hp : FirstDoubleSpace cs p)
    (hq : FirstDoubleSpace cs q) : p = q := by
  rcases Nat.lt_trichotomy p q with hlt | heq | hlt
  · exact absurd ⟨hp.first, hp.second⟩ (hq.earliest p hlt)
  · exact heq
  · exact absurd ⟨hq.first, hq.second⟩ (hp.earliest q hlt)

/-- The first two spaces in a row are found, and the bytes before them are counted. -/
theorem of_doubleSpaceAt? {offset n : Nat} {cs : List Char}
    (h : doubleSpaceAt? offset cs = some n) :
    ∃ p, FirstDoubleSpace cs p ∧ n = offset + bytes (cs.take p) := by
  induction cs generalizing offset with
  | nil => cases h
  | cons c cs ih =>
    cases cs with
    | nil => cases h
    | cons d rest =>
      rw [doubleSpaceAt?] at h
      by_cases hspaces : c = ' ' ∧ d = ' '
      · rw [if_pos hspaces] at h
        obtain ⟨rfl, rfl⟩ := hspaces
        exact ⟨0, ⟨rfl, rfl, fun q hq => absurd hq (Nat.not_lt_zero q)⟩, (Option.some.inj h).symm⟩
      · rw [if_neg hspaces] at h
        obtain ⟨p, hp, rfl⟩ := ih h
        refine ⟨p + 1, ⟨hp.first, hp.second, ?_⟩, ?_⟩
        · rintro (_ | q) hq ⟨hfirst, hsecond⟩
          · exact hspaces ⟨Option.some.inj hfirst, Option.some.inj hsecond⟩
          · exact hp.earliest q (Nat.lt_of_succ_lt_succ hq) ⟨hfirst, hsecond⟩
        · rw [List.take_succ_cons, bytes, Nat.add_assoc]

theorem FirstDoubleSpace.infix {cs : List Char} {p : Nat} (h : FirstDoubleSpace cs p) :
    [' ', ' '] <:+: cs := by
  obtain ⟨hfirst, hfirsteq⟩ := List.getElem?_eq_some_iff.1 h.first
  obtain ⟨hsecond, hsecondeq⟩ := List.getElem?_eq_some_iff.1 h.second
  have hdrop : cs.drop p = ' ' :: ' ' :: cs.drop (p + 1 + 1) := by
    rw [← List.getElem_cons_drop hfirst, hfirsteq, ← List.getElem_cons_drop hsecond, hsecondeq]
  refine ⟨cs.take p, cs.drop (p + 1 + 1), ?_⟩
  rw [List.append_assoc, List.cons_append, List.cons_append, List.nil_append, ← hdrop,
    List.take_append_drop]

theorem length_le_bytes (cs : List Char) : cs.length ≤ bytes cs := by
  induction cs with
  | nil => exact Nat.le_refl _
  | cons c cs ih =>
    have hpositive := c.utf8Size_pos
    simp only [bytes, List.length_cons] at ih ⊢
    omega

theorem utf8Size_eq_one_iff {c : Char} : c.utf8Size = 1 ↔ c.toNat < 128 := by
  have hplain : c.val ≤ 0x7F ↔ c.toNat < 128 := by
    rw [UInt32.le_iff_toNat_le]
    exact (Nat.lt_succ_iff (n := 127)).symm
  rw [← hplain]
  unfold Char.utf8Size
  dsimp only
  split
  · rename_i hsmall
    exact ⟨fun _ => hsmall, fun _ => rfl⟩
  · rename_i hlarge
    refine ⟨fun hsize => ?_, fun hsmall => absurd hsmall hlarge⟩
    split at hsize
    · cases hsize
    · split at hsize <;> cases hsize

/-- A text takes up as many bytes as characters exactly if all of them are plain ones. -/
theorem bytes_eq_length_iff {cs : List Char} : bytes cs = cs.length ↔ ∀ c ∈ cs, c.toNat < 128 := by
  induction cs with
  | nil => simp [bytes]
  | cons c cs ih =>
    have hpositive := c.utf8Size_pos
    have hrest := length_le_bytes cs
    rw [List.forall_mem_cons, ← ih, ← utf8Size_eq_one_iff]
    simp only [bytes, List.length_cons] at hrest ⊢
    omega

/-! ## Errors -/

/-- The errors about spaces. -/
theorem of_checkSpaces {cs : List Char} {e : TemplateError} (h : checkSpaces cs = .error e) :
    e = .empty ∨ e = .outerSpace ∨
      ∃ p, e = .doubleSpace (bytes (cs.take p)) ∧ FirstDoubleSpace cs p := by
  unfold checkSpaces at h
  split at h
  · exact .inl (Except.error.inj h).symm
  · split at h
    · exact .inr (.inl (Except.error.inj h).symm)
    · split at h
      · rename_i offset hoffset
        obtain rfl := Except.error.inj h
        obtain ⟨p, hp, hbytes⟩ := of_doubleSpaceAt? hoffset
        rw [Nat.zero_add] at hbytes
        exact .inr (.inr ⟨p, by rw [hbytes], hp⟩)
      · cases h

theorem of_checkMarker {arity : Nat} {m : Marker} {tokens : List Token} {e : TemplateError}
    (h : checkMarker arity m tokens = .error e) :
    e = .markerCount m (expected arity m) (count m tokens) := by
  unfold checkMarker at h
  split at h
  · cases h
  · exact (Except.error.inj h).symm

/-- Reading fails because of the spaces, or points at the character at fault. -/
theorem of_tokens? {arity : Nat} {cs : List Char} {e : TemplateError}
    (h : tokens? arity cs = .error e) :
    checkSpaces cs = .error e ∨ WellSpaced cs ∧ e.PointsAt cs := by
  unfold tokens? at h
  cases hspaces : checkSpaces cs with
  | error e' =>
    rw [hspaces] at h
    obtain rfl := Except.error.inj h
    exact .inl rfl
  | ok _ =>
    rw [hspaces] at h
    refine .inr ⟨checkSpaces_eq_ok.1 hspaces, ?_⟩
    cases hscan : scan 0 cs with
    | error e' =>
      rw [hscan] at h
      obtain rfl := Except.error.inj h
      exact pointsAt_of_scan [] hscan rfl
    | ok placed =>
      rw [hscan] at h
      cases hbrackets : checkBrackets {} placed with
      | error e' =>
        simp only [hbrackets, bind, Except.bind] at h
        obtain rfl := Except.error.inj h
        obtain ⟨hcs, hplain⟩ := of_scan hscan
        rw [hcs]
        have hplaced : Placed ([] : List Char).length placed := placed_of_scan hscan
        exact pointsAt_of_checkBrackets hbrackets hplaced hplain (.closed rfl balanced_nil)
      | ok _ =>
        simp only [hbrackets, bind, Except.bind] at h
        -- an error about the number of markers is one about the template as a whole
        cases ha : checkMarker arity .a (placed.map (·.2)) with
        | error e' =>
          simp only [ha] at h
          obtain rfl := Except.error.inj h
          rw [of_checkMarker ha]
          trivial
        | ok _ =>
          cases hb : checkMarker arity .b (placed.map (·.2)) with
          | error e' =>
            simp only [ha, hb] at h
            obtain rfl := Except.error.inj h
            rw [of_checkMarker hb]
            trivial
          | ok _ =>
            simp only [ha, hb] at h
            cases h

/-- Every position but that of two spaces in a row is the place of the character at fault. Two
spaces are reported where they first stand next to each other, counted in bytes; this is their place
exactly if each character before them takes up one byte. -/
theorem points_exact {arity : Nat} {text : String} {e : TemplateError}
    (h : parse? arity text = .error e) :
    ((∀ n, e ≠ .doubleSpace n) → e.PointsAt text.toList) ∧
      ∀ n, e = .doubleSpace n → ∃ p, FirstDoubleSpace text.toList p ∧
        n = bytes (text.toList.take p) ∧
        (e.PointsAt text.toList ↔ ∀ c ∈ text.toList.take p, c.toNat < 128) := by
  have htokens : tokens? arity text.toList = .error e := by
    unfold parse? at h
    cases hread : tokens? arity text.toList with
    | error e' =>
      rw [hread] at h
      obtain rfl := Except.error.inj h
      rfl
    | ok tokens =>
      rw [hread] at h
      cases h
  rcases of_tokens? htokens with hspaces | ⟨hspaced, hpoints⟩
  · rcases of_checkSpaces hspaces with rfl | rfl | ⟨p, rfl, hp⟩
    · exact ⟨fun _ => trivial, nofun⟩
    · exact ⟨fun _ => trivial, nofun⟩
    · refine ⟨fun hother => absurd rfl (hother _), fun n hn => ?_⟩
      obtain rfl := TemplateError.doubleSpace.inj hn
      refine ⟨p, hp, rfl, ?_⟩
      have hlength : (text.toList.take p).length = p := by
        obtain ⟨hlt, -⟩ := List.getElem?_eq_some_iff.1 hp.first
        rw [List.length_take]
        omega
      rw [← bytes_eq_length_iff, hlength]
      constructor
      · exact fun hpoints => hpoints.unique hp
      · intro hbytes
        rw [hbytes]
        exact hp
  · refine ⟨fun _ => hpoints, fun n hn => ?_⟩
    subst hn
    exact absurd hpoints.infix hspaced.single

/-- A marker in the group that begins after `take `. -/
theorem points_exact_take : parse? 1 "take [the <A>]" = .error (.markerInBracket 10) ∧
    TemplateError.PointsAt "take [the <A>]".toList (.markerInBracket 10) := by
  have herror : parse? 1 "take [the <A>]" = .error (.markerInBracket 10) := rfl
  exact ⟨herror, (points_exact herror).1 nofun⟩

/-- The spaces follow one character, which takes up two bytes. -/
theorem points_beyond : parse? 0 "é  a" = .error (.doubleSpace 2) ∧
    FirstDoubleSpace "é  a".toList 1 ∧
    ¬ TemplateError.PointsAt "é  a".toList (.doubleSpace 2) := by
  refine ⟨rfl, ⟨rfl, rfl, ?_⟩, fun h => ?_⟩
  · decide
  · exact absurd h.second (by decide)

end Template

end Adventure
