import Adventure.Command.Template
import Adventure.Proofs.Steps

/-!
# The grammar of templates

A text is a template exactly if it is put together from letters, spaces, groups and markers and
keeps the rules about spaces, letters and markers (`Template.readable_iff`). Reading then yields
the pieces that the text is put together from (`Template.parse?_eq_ok_iff`), so pieces and text
determine each other.

Both directions follow the three steps of reading. The scanner takes a text apart into tokens, whose
texts make up the text again (`Scanned`). The brackets are in order exactly if the tokens are those
of a list of pieces; what the check has seen so far says which tokens may follow (`Bracketed`). The
last step counts markers, which tokens and pieces have in common.
-/

namespace Adventure.Template

/-! ## Texts of tokens and pieces -/

/-- The characters that stand for themselves in a template. -/
def isPlain (c : Char) : Bool := isLetter c || c == ' '

/-- The text of a token. -/
def Token.chars : Token → List Char
  | .letter c => [c]
  | .opening => ['[']
  | .closing => [']']
  | .marker m => ['<', m.letter, '>']

theorem Token.length_chars_pos (token : Token) : 0 < token.chars.length := by
  cases token <;> exact Nat.succ_pos _

/-- Whether a token other than a bracket or a marker is a letter or a space. -/
def Token.Plain : Token → Prop
  | .letter c => isPlain c = true
  | _ => True

@[simp] theorem Token.plain_letter {c : Char} : (Token.letter c).Plain ↔ isPlain c = true := Iff.rfl

@[simp] theorem Token.plain_opening : Token.opening.Plain := trivial

@[simp] theorem Token.plain_closing : Token.closing.Plain := trivial

@[simp] theorem Token.plain_marker (m : Marker) : (Token.marker m).Plain := trivial

/-- The tokens of a piece. -/
def Piece.tokens : Piece → List Token
  | .letter c => [.letter c]
  | .group g => .opening :: (g.map .letter ++ [.closing])
  | .slot m => [.marker m]

/-- The text of a piece. -/
def Piece.chars : Piece → List Char
  | .letter c => [c]
  | .group g => '[' :: (g ++ [']'])
  | .slot m => ['<', m.letter, '>']

/-- A letter piece is a letter or a space, and so is each character of a group, which holds a
letter. -/
def Piece.WellFormed : Piece → Prop
  | .letter c => isPlain c = true
  | .group g => (∀ c ∈ g, isPlain c = true) ∧ ∃ c ∈ g, isLetter c = true
  | .slot _ => True

theorem flatMap_map_letter (g : List Char) : (g.map Token.letter).flatMap Token.chars = g := by
  induction g with
  | nil => rfl
  | cons c g ih => rw [List.map_cons, List.flatMap_cons, ih]; rfl

theorem flatMap_tokens_chars (piece : Piece) : piece.tokens.flatMap Token.chars = piece.chars := by
  cases piece with
  | letter | slot => rfl
  | group g => simp [Piece.tokens, Piece.chars, Token.chars, flatMap_map_letter]

theorem flatMap_chars (pieces : List Piece) :
    (pieces.flatMap Piece.tokens).flatMap Token.chars = pieces.flatMap Piece.chars := by
  rw [List.flatMap_assoc]
  simp only [flatMap_tokens_chars]

/-! ## Scanning -/

theorem isPlain_iff {c : Char} : isPlain c = true ↔ c = ' ' ∨ isLetter c = true := by
  rw [isPlain, Bool.or_eq_true, beq_iff_eq, or_comm]

/-- A letter or a space is no bracket and begins no marker. -/
theorem ne_of_isPlain {c : Char} (h : isPlain c = true) : c ≠ '<' ∧ c ≠ '[' ∧ c ≠ ']' := by
  refine ⟨?_, ?_, ?_⟩ <;> rintro rfl <;> exact absurd h (by decide)

/-- The text of a token is scanned as this token. -/
theorem scan_chars {token : Token} (h : token.Plain) (n : Nat) (rest : List Char) :
    scan n (token.chars ++ rest)
      = (scan (n + token.chars.length) rest).map ((n, token) :: ·) := by
  cases token with
  | letter c =>
    obtain ⟨hmarker, hopening, hclosing⟩ := ne_of_isPlain h
    change scan n (c :: rest) = _
    rw [scan.eq_5 _ _ _ hmarker, if_neg hopening, if_neg hclosing, if_pos (isPlain_iff.1 h)]
    rfl
  | opening | closing => rfl
  | marker m => cases m <;> rfl

theorem scan_flatMap_chars {tokens : List Token} (h : ∀ token ∈ tokens, token.Plain) (n : Nat) :
    ∃ placed, scan n (tokens.flatMap Token.chars) = .ok placed ∧ placed.map (·.2) = tokens := by
  induction tokens generalizing n with
  | nil => exact ⟨[], rfl, rfl⟩
  | cons token tokens ih =>
    obtain ⟨htoken, htokens⟩ := List.forall_mem_cons.1 h
    obtain ⟨placed, hplaced, rfl⟩ := ih htokens (n + token.chars.length)
    refine ⟨(n, token) :: placed, ?_, rfl⟩
    rw [List.flatMap_cons, scan_chars htoken, hplaced]
    rfl

/-- What a scan comes to: it takes up one token after the other until nothing is left, or until it
is stuck at a character with which no token begins. -/
inductive Scanned : Nat → List Char → Except TemplateError (List (Nat × Token)) → Prop
  | nil {n : Nat} : Scanned n [] (.ok [])
  | token {n : Nat} {token : Token} {rest : List Char}
      {result : Except TemplateError (List (Nat × Token))} (plain : token.Plain)
      (scanned : Scanned (n + token.chars.length) rest result) :
      Scanned n (token.chars ++ rest) (result.map ((n, token) :: ·))
  | stuck {n : Nat} {c : Char} {rest : List Char}
      (foreign : ∀ token : Token, token.Plain → ¬ token.chars <+: c :: rest) :
      Scanned n (c :: rest) (.error (.invalidCharacter c n))

theorem Scanned.of_token {token : Token} {n : Nat} {rest : List Char} (plain : token.Plain)
    (scanned : Scanned (n + token.chars.length) rest (scan (n + token.chars.length) rest)) :
    Scanned n (token.chars ++ rest) (scan n (token.chars ++ rest)) := by
  rw [scan_chars plain]
  exact .token plain scanned

/-- Where no token begins, the scan is stuck. -/
theorem scan_stuck {n : Nat} {c : Char} {rest : List Char}
    (foreign : ∀ token : Token, token.Plain → ¬ token.chars <+: c :: rest) :
    scan n (c :: rest) = .error (.invalidCharacter c n) := by
  by_cases hmarker : c = '<'
  · subst hmarker
    have hA : ∀ after, rest ≠ 'A' :: '>' :: after := by
      rintro after rfl
      exact foreign (.marker .a) (Token.plain_marker .a) ⟨after, rfl⟩
    have hB : ∀ after, rest ≠ 'B' :: '>' :: after := by
      rintro after rfl
      exact foreign (.marker .b) (Token.plain_marker .b) ⟨after, rfl⟩
    simp [scan]
  · have hopening : c ≠ '[' := by
      rintro rfl
      exact foreign .opening Token.plain_opening ⟨rest, rfl⟩
    have hclosing : c ≠ ']' := by
      rintro rfl
      exact foreign .closing Token.plain_closing ⟨rest, rfl⟩
    have hplain : ¬ (c = ' ' ∨ isLetter c = true) := fun h =>
      foreign (.letter c) (Token.plain_letter.2 (isPlain_iff.2 h)) ⟨rest, rfl⟩
    simp [scan, hopening, hclosing, hplain]

/-- The induction is on the length of the text, since a token may take up several characters. -/
theorem scanned_scan (n : Nat) (cs : List Char) : Scanned n cs (scan n cs) := by
  induction hlength : cs.length using Nat.strongRecOn generalizing n cs with
  | ind length ih =>
    cases cs with
    | nil => exact .nil
    | cons c rest =>
      by_cases hbegins : ∃ token : Token, token.Plain ∧ token.chars <+: c :: rest
      · obtain ⟨token, hplain, after, hafter⟩ := hbegins
        rw [← hafter, List.length_append] at hlength
        rw [← hafter]
        have hpositive := token.length_chars_pos
        exact .of_token hplain (ih after.length (by omega) _ after rfl)
      · have foreign : ∀ token : Token, token.Plain → ¬ token.chars <+: c :: rest :=
          fun token hplain hbegin => hbegins ⟨token, hplain, hbegin⟩
        rw [scan_stuck foreign]
        exact .stuck foreign

/-- The texts of the tokens that a text is scanned as make up the text. -/
theorem of_scan {n : Nat} {cs : List Char} {placed : List (Nat × Token)}
    (h : scan n cs = .ok placed) :
    cs = (placed.map (·.2)).flatMap Token.chars ∧ ∀ t ∈ placed.map (·.2), t.Plain := by
  have hscanned := scanned_scan n cs
  generalize scan n cs = result at h hscanned
  induction hscanned generalizing placed with
  | nil =>
    obtain rfl := Except.ok.inj h
    exact ⟨rfl, nofun⟩
  | @token n token rest result plain _ ih =>
    cases result with
    | error => cases h
    | ok others =>
      obtain rfl := Except.ok.inj h
      obtain ⟨hrest, hothers⟩ := ih rfl
      refine ⟨?_, List.forall_mem_cons.2 ⟨plain, hothers⟩⟩
      rw [List.map_cons, List.flatMap_cons, ← hrest]
  | stuck => cases h

/-! ## Brackets -/

/-- The tokens of the group that is open, as far as it has been read. -/
def heldTokens : Option (List Char) → List Token
  | none => []
  | some g => .opening :: g.map .letter

/-- A group is held if the check has seen one open, and a letter that it has seen in the group is
held too. -/
structure Holds (seen : Brackets) (held : Option (List Char)) : Prop where
  isSome_eq : seen.openAt.isSome = held.isSome
  inside : ∀ g, held = some g → seen.letterInside = true → ∃ c ∈ g, isLetter c = true

/-- The pieces that tokens make up have these tokens, all their groups hold a letter, and a letter
stands outside the groups unless one has been seen there before. -/
structure Bracketed (held : Option (List Char)) (outside : Bool) (tokens : List Token) : Prop where
  tokens_eq : (piecesFrom held tokens).flatMap Piece.tokens = heldTokens held ++ tokens
  groups : ∀ g, .group g ∈ piecesFrom held tokens → ∃ c ∈ g, isLetter c = true
  letters : outside = true ∨ ∃ c, isLetter c = true ∧ .letter c ∈ piecesFrom held tokens

namespace Bracketed

variable {outside : Bool} {tokens : List Token}

theorem opening (h : Bracketed (some []) outside tokens) :
    Bracketed none outside (.opening :: tokens) :=
  ⟨h.tokens_eq, h.groups, h.letters⟩

theorem closing {g : List Char} (hg : ∃ c ∈ g, isLetter c = true)
    (h : Bracketed none outside tokens) : Bracketed (some g) outside (.closing :: tokens) := by
  have hpieces : piecesFrom (some g) (.closing :: tokens)
      = .group g :: piecesFrom none tokens := rfl
  refine ⟨?_, fun g' hg' => ?_, ?_⟩
  · rw [hpieces, List.flatMap_cons, h.tokens_eq]
    simp [heldTokens, Piece.tokens]
  · rcases List.mem_cons.1 (hpieces ▸ hg') with heq | hmem
    · obtain rfl := Piece.group.inj heq
      exact hg
    · exact h.groups g' hmem
  · exact h.letters.imp_right fun ⟨c, hc, hmem⟩ => ⟨c, hc, List.mem_cons_of_mem _ hmem⟩

theorem slot (m : Marker) (h : Bracketed none outside tokens) :
    Bracketed none outside (.marker m :: tokens) := by
  have hpieces : piecesFrom none (.marker m :: tokens) = .slot m :: piecesFrom none tokens := rfl
  refine ⟨congrArg (Token.marker m :: ·) h.tokens_eq, fun g hg => ?_, ?_⟩
  · exact h.groups g (by simpa [hpieces] using hg)
  · exact h.letters.imp_right fun ⟨c, hc, hmem⟩ => ⟨c, hc, List.mem_cons_of_mem _ hmem⟩

theorem letterInside {g : List Char} (c : Char) (h : Bracketed (some (g ++ [c])) outside tokens) :
    Bracketed (some g) outside (.letter c :: tokens) := by
  refine ⟨h.tokens_eq.trans ?_, h.groups, h.letters⟩
  simp [heldTokens]

theorem letterOutside {outside' : Bool} {c : Char} (h : Bracketed none outside' tokens)
    (hc : outside' = true → outside = true ∨ isLetter c = true) :
    Bracketed none outside (.letter c :: tokens) := by
  have hpieces : piecesFrom none (.letter c :: tokens) = .letter c :: piecesFrom none tokens := rfl
  refine ⟨congrArg (Token.letter c :: ·) h.tokens_eq, fun g hg => ?_, ?_⟩
  · exact h.groups g (by simpa [hpieces] using hg)
  · rcases h.letters with houtside | ⟨d, hd, hmem⟩
    · exact (hc houtside).imp_right fun hletter => ⟨c, hletter, List.mem_cons_self⟩
    · exact .inr ⟨d, hd, List.mem_cons_of_mem _ hmem⟩

end Bracketed

theorem holds_none {seen : Brackets} (h : seen.openAt = none) : Holds seen none :=
  ⟨by rw [h]; rfl, nofun⟩

theorem Holds.eq_none {seen : Brackets} {held : Option (List Char)} (h : Holds seen held)
    (hclosed : seen.openAt.isSome = false) : held = none :=
  Option.isSome_eq_false_iff.1 (h.isSome_eq ▸ hclosed) |> Option.isNone_iff_eq_none.1

theorem Holds.exists_eq_some {seen : Brackets} {held : Option (List Char)} (h : Holds seen held)
    (hopen : seen.openAt.isSome = true) : ∃ g, held = some g :=
  Option.isSome_iff_exists.1 (h.isSome_eq ▸ hopen)

/-- Tokens that pass the check of the brackets are the tokens of the pieces that they make up. -/
theorem bracketed_of_checkBrackets {seen : Brackets} {placed : List (Nat × Token)}
    {held : Option (List Char)} (h : checkBrackets seen placed = .ok ()) (hheld : Holds seen held) :
    Bracketed held seen.letterOutside (placed.map (·.2)) := by
  induction placed generalizing seen held with
  | nil =>
    cases hopen : seen.openAt with
    | some start => simp [checkBrackets, hopen] at h
    | none =>
      obtain rfl := hheld.eq_none (by rw [hopen]; rfl)
      exact ⟨rfl, nofun, .inl (by simpa [checkBrackets, hopen] using h)⟩
  | cons placedToken rest ih =>
    obtain ⟨n, token⟩ := placedToken
    cases hopen : seen.openAt with
    | none =>
      obtain rfl := hheld.eq_none (by rw [hopen]; rfl)
      cases token with
      | opening =>
        simp only [checkBrackets, hopen] at h
        exact (ih h ⟨rfl, nofun⟩).opening
      | closing => simp [checkBrackets, hopen] at h
      | marker m =>
        simp only [checkBrackets, hopen] at h
        exact (ih h hheld).slot m
      | letter c =>
        cases hletter : isLetter c with
        | false =>
          simp only [checkBrackets, hopen, hletter, Bool.not_false, if_true] at h
          exact (ih h hheld).letterOutside .inl
        | true =>
          simp only [checkBrackets, hopen, hletter] at h
          exact (ih h (holds_none rfl)).letterOutside fun _ => .inr hletter
    | some start =>
      obtain ⟨g, rfl⟩ := hheld.exists_eq_some (by rw [hopen]; rfl)
      cases token with
      | opening | marker => simp [checkBrackets, hopen] at h
      | closing =>
        cases hinside : seen.letterInside with
        | false => simp [checkBrackets, hopen, hinside] at h
        | true =>
          simp only [checkBrackets, hopen, hinside, if_true] at h
          exact (ih h (holds_none rfl)).closing (hheld.inside g rfl hinside)
      | letter c =>
        cases hletter : isLetter c with
        | false =>
          have hholds : Holds seen (some (g ++ [c])) := by
            refine ⟨hheld.isSome_eq, fun g' hg' hseen => ?_⟩
            obtain ⟨d, hd, hletter⟩ := hheld.inside g rfl hseen
            obtain rfl := Option.some.inj hg'
            exact ⟨d, List.mem_append_left _ hd, hletter⟩
          simp only [checkBrackets, hopen, hletter, Bool.not_false, if_true] at h
          exact (ih h hholds).letterInside c
        | true =>
          have hholds : Holds ⟨some start, true, seen.letterOutside⟩ (some (g ++ [c])) := by
            refine ⟨rfl, fun g' hg' _ => ?_⟩
            obtain rfl := Option.some.inj hg'
            exact ⟨c, by simp, hletter⟩
          simp only [checkBrackets, hopen, hletter] at h
          exact (ih h hholds).letterInside c

/-- The rest of a group passes the check if the group holds a letter. -/
theorem checkBrackets_group {seen : Brackets} {start n : Nat} (hopen : seen.openAt = some start)
    {g : List Char} (hg : seen.letterInside = true ∨ ∃ c ∈ g, isLetter c = true)
    {inside : List (Nat × Token)} (hinside : inside.map (·.2) = g.map .letter)
    (rest : List (Nat × Token)) :
    checkBrackets seen (inside ++ (n, .closing) :: rest)
      = checkBrackets ⟨none, true, seen.letterOutside⟩ rest := by
  induction g generalizing seen inside with
  | nil =>
    obtain rfl := List.map_eq_nil_iff.1 hinside
    have hseen : seen.letterInside = true := by simpa using hg
    simp [checkBrackets, hopen, hseen]
  | cons c g ih =>
    obtain ⟨⟨k, token⟩, inside, rfl, htoken, hrest⟩ := List.map_eq_cons_iff.1 hinside
    obtain rfl : token = .letter c := htoken
    rw [List.cons_append, checkBrackets]
    by_cases hletter : isLetter c = true
    · simp only [hletter, hopen]
      exact ih (by simp) (.inl rfl) hrest
    · simp only [hletter]
      exact ih hopen (by simpa [hletter] using hg) hrest

/-- The tokens of pieces pass the check if every group holds a letter and a letter stands outside
the groups. -/
theorem checkBrackets_tokens {seen : Brackets} (hclosed : seen.openAt = none) {pieces : List Piece}
    (hgroups : ∀ g, .group g ∈ pieces → ∃ c ∈ g, isLetter c = true)
    (hletters : seen.letterOutside = true ∨ ∃ c, isLetter c = true ∧ .letter c ∈ pieces)
    {placed : List (Nat × Token)} (hplaced : placed.map (·.2) = pieces.flatMap Piece.tokens) :
    checkBrackets seen placed = .ok () := by
  induction pieces generalizing seen placed with
  | nil =>
    obtain rfl := List.map_eq_nil_iff.1 hplaced
    have hseen : seen.letterOutside = true := by simpa using hletters
    simp [checkBrackets, hclosed, hseen]
  | cons piece pieces ih =>
    have hgroups' : ∀ g, .group g ∈ pieces → ∃ c ∈ g, isLetter c = true := fun g hg =>
      hgroups g (List.mem_cons_of_mem _ hg)
    rw [List.flatMap_cons] at hplaced
    obtain ⟨own, rest, rfl, hown, hrest⟩ := List.map_eq_append_iff.1 hplaced
    cases piece with
    | letter c =>
      obtain ⟨⟨n, token⟩, rfl, htoken⟩ := List.map_eq_singleton_iff.1 hown
      obtain rfl : token = .letter c := htoken
      rw [List.singleton_append, checkBrackets]
      by_cases hletter : isLetter c = true
      · simp only [hletter, hclosed]
        exact ih rfl hgroups' (.inl rfl) hrest
      · simp only [hletter]
        refine ih hclosed hgroups' (hletters.imp_right ?_) hrest
        rintro ⟨d, hd, hmem⟩
        refine ⟨d, hd, List.mem_of_ne_of_mem ?_ hmem⟩
        rintro heq
        obtain rfl := Piece.letter.inj heq
        exact hletter hd
    | group g =>
      obtain ⟨⟨n, token⟩, rest', rfl, htoken, hrest'⟩ := List.map_eq_cons_iff.1 hown
      obtain rfl : token = .opening := htoken
      obtain ⟨inside, last, rfl, hinside, hlast⟩ := List.map_eq_append_iff.1 hrest'
      obtain ⟨⟨k, token⟩, rfl, htoken⟩ := List.map_eq_singleton_iff.1 hlast
      obtain rfl : token = .closing := htoken
      rw [List.cons_append, checkBrackets.eq_3 _ _ _ hclosed, List.append_assoc,
        List.singleton_append,
        checkBrackets_group rfl (.inr (hgroups g List.mem_cons_self)) hinside]
      exact ih rfl hgroups' (by simpa using hletters) hrest
    | slot m =>
      obtain ⟨⟨n, token⟩, rfl, htoken⟩ := List.map_eq_singleton_iff.1 hown
      obtain rfl : token = .marker m := htoken
      rw [List.singleton_append, checkBrackets.eq_7 _ _ _ _ hclosed]
      exact ih hclosed hgroups' (by simpa using hletters) hrest

/-! ## Pieces -/

theorem piecesFrom_group (held g : List Char) (rest : List Token) :
    piecesFrom (some held) (g.map .letter ++ .closing :: rest)
      = .group (held ++ g) :: piecesFrom none rest := by
  induction g generalizing held with
  | nil => simp [piecesFrom]
  | cons c g ih => simpa [piecesFrom] using ih (held ++ [c])

/-- The tokens of pieces make up these pieces. -/
theorem piecesFrom_tokens (pieces : List Piece) :
    piecesFrom none (pieces.flatMap Piece.tokens) = pieces := by
  induction pieces with
  | nil => rfl
  | cons piece pieces ih =>
    rw [List.flatMap_cons]
    cases piece with
    | letter c => exact congrArg (Piece.letter c :: ·) ih
    | slot m => exact congrArg (Piece.slot m :: ·) ih
    | group g =>
      have hgroup := piecesFrom_group [] g (pieces.flatMap Piece.tokens)
      rw [ih] at hgroup
      simpa [Piece.tokens, piecesFrom] using hgroup

theorem count_append (m : Marker) (first rest : List Token) :
    count m (first ++ rest) = count m first + count m rest :=
  List.count_append

theorem count_map_letter (m : Marker) (g : List Char) : count m (g.map .letter) = 0 := by
  simp [count, List.count_eq_zero]

/-- Tokens and pieces have the same markers. -/
theorem count_tokens (m : Marker) (pieces : List Piece) :
    count m (pieces.flatMap Piece.tokens) = pieces.count (.slot m) := by
  induction pieces with
  | nil => rfl
  | cons piece pieces ih =>
    rw [List.flatMap_cons, count_append, ih, List.count_cons, Nat.add_comm]
    congr 1
    cases piece with
    | letter c => simp [Piece.tokens, count]
    | group g =>
      have := count_map_letter m g
      simp_all [Piece.tokens, count]
    | slot m' => simp [Piece.tokens, count, List.count_cons]

/-! ## Spaces -/

theorem doubleSpaceAt?_eq_none {n : Nat} {cs : List Char} :
    doubleSpaceAt? n cs = none ↔ ¬ [' ', ' '] <:+: cs := by
  induction cs generalizing n with
  | nil => simp [doubleSpaceAt?]
  | cons c cs ih =>
    cases cs with
    | nil => simp [doubleSpaceAt?, List.infix_cons_iff]
    | cons d rest =>
      rw [doubleSpaceAt?, List.infix_cons_iff (a := c)]
      by_cases hspaces : c = ' ' ∧ d = ' '
      · obtain ⟨rfl, rfl⟩ := hspaces
        simp
      · rw [if_neg hspaces, ih]
        simp only [List.cons_prefix_cons, List.nil_prefix, and_true, not_or]
        exact (and_iff_right fun hbegins => hspaces ⟨hbegins.1.symm, hbegins.2.symm⟩).symm

/-- A text is not empty, begins and ends with no space and has no two spaces in a row. -/
structure WellSpaced (cs : List Char) : Prop where
  nonempty : cs ≠ []
  head : cs.head? ≠ some ' '
  last : cs.getLast? ≠ some ' '
  single : ¬ [' ', ' '] <:+: cs

theorem checkSpaces_eq_ok {cs : List Char} : checkSpaces cs = .ok () ↔ WellSpaced cs := by
  unfold checkSpaces
  by_cases hempty : cs = []
  · simp only [if_pos hempty, reduceCtorEq, false_iff]
    exact fun h => h.nonempty hempty
  by_cases houter : cs.head? = some ' ' ∨ cs.getLast? = some ' '
  · simp only [if_neg hempty, if_pos houter, reduceCtorEq, false_iff]
    exact fun h => houter.elim h.head h.last
  rw [if_neg hempty, if_neg houter]
  rw [not_or] at houter
  cases hdouble : doubleSpaceAt? 0 cs with
  | some offset =>
    simp only [reduceCtorEq, false_iff]
    intro h
    rw [doubleSpaceAt?_eq_none.2 h.single] at hdouble
    cases hdouble
  | none =>
    exact ⟨fun _ => ⟨hempty, houter.1, houter.2, doubleSpaceAt?_eq_none.1 hdouble⟩, fun _ => rfl⟩

/-! ## Reading -/

theorem checkMarker_eq_ok {arity : Nat} {m : Marker} {tokens : List Token} :
    checkMarker arity m tokens = .ok () ↔ count m tokens = expected arity m := by
  rw [checkMarker]
  split <;> simp_all

/-- Reading succeeds if each of its steps does. -/
theorem tokens?_eq_ok {arity : Nat} {cs : List Char} {tokens : List Token} :
    tokens? arity cs = .ok tokens ↔ checkSpaces cs = .ok () ∧
      ∃ placed, scan 0 cs = .ok placed ∧ checkBrackets {} placed = .ok () ∧
        placed.map (·.2) = tokens ∧ ∀ m, count m tokens = expected arity m := by
  simp only [tokens?, bind_eq_ok]
  constructor
  · rintro ⟨_, hspaces, placed, hscan, _, hbrackets, _, ha, _, hb, htokens⟩
    obtain rfl := Except.ok.inj htokens
    refine ⟨hspaces, placed, hscan, hbrackets, rfl, fun m => ?_⟩
    cases m with
    | a => exact checkMarker_eq_ok.1 ha
    | b => exact checkMarker_eq_ok.1 hb
  · rintro ⟨hspaces, placed, hscan, hbrackets, rfl, hcount⟩
    exact ⟨(), hspaces, placed, hscan, (), hbrackets, (), checkMarker_eq_ok.2 (hcount .a), (),
      checkMarker_eq_ok.2 (hcount .b), rfl⟩

theorem wellFormed_iff {piece : Piece} : piece.WellFormed ↔
    (∀ t ∈ piece.tokens, t.Plain) ∧ ∀ g, .group g = piece → ∃ c ∈ g, isLetter c = true := by
  cases piece with
  | letter c => simp [Piece.WellFormed, Piece.tokens]
  | group g => simp [Piece.WellFormed, Piece.tokens, or_imp, forall_and]
  | slot m => simp [Piece.WellFormed, Piece.tokens]

/-- Pieces are well-formed if their tokens are plain and their groups hold a letter. -/
theorem forall_wellFormed_iff {pieces : List Piece} : (∀ piece ∈ pieces, piece.WellFormed) ↔
    (∀ t ∈ pieces.flatMap Piece.tokens, t.Plain) ∧
      ∀ g, .group g ∈ pieces → ∃ c ∈ g, isLetter c = true := by
  simp only [wellFormed_iff, List.mem_flatMap]
  constructor
  · intro h
    exact ⟨fun t ⟨piece, hpiece, ht⟩ => (h piece hpiece).1 t ht, fun g hg => (h _ hg).2 g rfl⟩
  · rintro ⟨hplain, hgroups⟩ piece hpiece
    exact ⟨fun t ht => hplain t ⟨piece, hpiece, ht⟩, fun g hg => hgroups g (hg ▸ hpiece)⟩

/-- A text is put together from pieces as a template for a command that names `arity` objects. -/
structure Composed (arity : Nat) (text : String) (pieces : List Piece) : Prop where
  spaced : WellSpaced text.toList
  chars_eq : text.toList = pieces.flatMap Piece.chars
  wellFormed : ∀ piece ∈ pieces, piece.WellFormed
  letters : ∃ c, isLetter c = true ∧ .letter c ∈ pieces
  count_slot : ∀ m, pieces.count (.slot m) = expected arity m

/-- Reading a text yields the pieces that it is put together from. -/
theorem parse?_eq_ok_iff {arity : Nat} {text : String} {template : Template} :
    parse? arity text = .ok template ↔ Composed arity text template.pieces := by
  have hread : parse? arity text = .ok template ↔
      ∃ tokens, tokens? arity text.toList = .ok tokens ∧
        template.pieces = piecesFrom none tokens := by
    rw [parse?, bind_eq_ok]
    refine exists_congr fun tokens => and_congr_right fun _ => ?_
    obtain ⟨pieces⟩ := template
    simp [pure, Except.pure, eq_comm]
  rw [hread]
  constructor
  · rintro ⟨tokens, htokens, hpieces⟩
    obtain ⟨hspaces, placed, hscan, hbrackets, rfl, hcount⟩ := tokens?_eq_ok.1 htokens
    obtain ⟨hchars, hplain⟩ := of_scan hscan
    have hbracketed := bracketed_of_checkBrackets hbrackets (holds_none rfl)
    have htokens' : template.pieces.flatMap Piece.tokens = placed.map (·.2) := by
      rw [hpieces]
      exact hbracketed.tokens_eq
    refine ⟨checkSpaces_eq_ok.1 hspaces, ?_, ?_, ?_, ?_⟩
    · rw [hchars, ← htokens', flatMap_chars]
    · exact forall_wellFormed_iff.2 ⟨htokens' ▸ hplain, hpieces ▸ hbracketed.groups⟩
    · rw [hpieces]
      exact hbracketed.letters.resolve_left nofun
    · intro m
      rw [← hcount m, ← htokens', count_tokens]
  · intro h
    obtain ⟨hplain, hgroups⟩ := forall_wellFormed_iff.1 h.wellFormed
    obtain ⟨placed, hscan, hplaced⟩ := scan_flatMap_chars hplain 0
    rw [flatMap_chars, ← h.chars_eq] at hscan
    have hbrackets : checkBrackets {} placed = .ok () :=
      checkBrackets_tokens rfl hgroups (.inr h.letters) hplaced
    refine ⟨placed.map (·.2), tokens?_eq_ok.2 ⟨checkSpaces_eq_ok.2 h.spaced, placed, hscan,
      hbrackets, rfl, fun m => ?_⟩, ?_⟩
    · rw [hplaced, count_tokens, h.count_slot]
    · rw [hplaced, piecesFrom_tokens]

/-- A text is read as a template for a command that names `arity` objects exactly if it is not
empty, begins and ends with no space, has no two spaces in a row and is put together from letters,
spaces, groups of them with a letter each, and markers, with a letter outside the groups and each
marker as often as an object is named by it. -/
theorem readable_iff (arity : Nat) (text : String) :
    (∃ template, parse? arity text = .ok template) ↔
      text.toList ≠ [] ∧ text.toList.head? ≠ some ' ' ∧ text.toList.getLast? ≠ some ' ' ∧
        ¬ [' ', ' '] <:+: text.toList ∧
        ∃ pieces : List Piece, text.toList = pieces.flatMap Piece.chars ∧
          (∀ piece ∈ pieces, piece.WellFormed) ∧ (∃ c, isLetter c = true ∧ .letter c ∈ pieces) ∧
          pieces.count (.slot .a) = (if 1 ≤ arity then 1 else 0) ∧
          pieces.count (.slot .b) = (if 2 ≤ arity then 1 else 0) := by
  simp only [parse?_eq_ok_iff]
  constructor
  · rintro ⟨template, h⟩
    exact ⟨h.spaced.nonempty, h.spaced.head, h.spaced.last, h.spaced.single, template.pieces,
      h.chars_eq, h.wellFormed, h.letters, h.count_slot .a, h.count_slot .b⟩
  · rintro ⟨hnonempty, hhead, hlast, hsingle, pieces, hchars, hformed, hletters, ha, hb⟩
    refine ⟨⟨pieces⟩, ⟨hnonempty, hhead, hlast, hsingle⟩, hchars, hformed, hletters, fun m => ?_⟩
    cases m with
    | a => exact ha
    | b => exact hb

end Adventure.Template
