import Adventure.Play.Handlers
import Adventure.Proofs.NormalLines
import Adventure.Proofs.TemplateRoundTrip

/-!
# Normal forms stay

Bringing a line into normal form loses nothing that is read later: the normal form is its own normal
form and is read as the same command, in every state of play. Its words are the words of the line in
small letters (`Text.words_normalize`). Templates have a normal form too, small letters with capital
markers. It stays as well, and a text that is read as a template already has it.

A normal form of a template is not in small letters, so it is put in small letters again before the
markers are. That this leads back to the same small letters is seen character by character: what a
marker gives way to has the marker as its small form (`Text.flatMap_replaceChars`).
-/

namespace Adventure

/-! ## Words -/

namespace Text

open Unicode

theorem splitWhen_of_forall {α : Type} {p : α → Bool} {as : List α} (h : ∀ a ∈ as, p a = false) :
    splitWhen p as = [as] := by
  induction as with
  | nil => rfl
  | cons a as ih =>
    obtain ⟨ha, has⟩ := List.forall_mem_cons.1 h
    obtain ⟨part, parts, hparts, heq⟩ := splitWhen_of_neg ha as
    rw [ih has] at hparts
    obtain ⟨rfl, rfl⟩ := List.cons.inj hparts
    exact heq

theorem splitWhen_append_cons {α : Type} {p : α → Bool} {as : List α}
    (h : ∀ a ∈ as, p a = false) {b : α} (hb : p b = true) (rest : List α) :
    splitWhen p (as ++ b :: rest) = as :: splitWhen p rest := by
  induction as with
  | nil => exact splitWhen_of_pos hb rest
  | cons a as ih =>
    obtain ⟨ha, has⟩ := List.forall_mem_cons.1 h
    obtain ⟨part, parts, hparts, heq⟩ := splitWhen_of_neg ha (as ++ b :: rest)
    rw [ih has] at hparts
    obtain ⟨rfl, rfl⟩ := List.cons.inj hparts
    exact heq

/-- Words are not empty and hold no white space. -/
theorem of_mem_words {cs word : List Char} (h : word ∈ words cs) :
    word ≠ [] ∧ ∀ c ∈ word, isWhitespace c = false := by
  obtain ⟨hpart, hfull⟩ := List.mem_filter.1 h
  exact ⟨by simpa using hfull, fun c hc => (of_mem_splitWhen hpart c hc).2⟩

/-- Words that are put together with spaces fall into the same words again. -/
theorem words_join {ws : List (List Char)}
    (h : ∀ w ∈ ws, w ≠ [] ∧ ∀ c ∈ w, isWhitespace c = false) : words (join [' '] ws) = ws := by
  induction ws with
  | nil => rfl
  | cons w ws ih =>
    obtain ⟨⟨hne, hsolid⟩, hrest⟩ := List.forall_mem_cons.1 h
    cases ws with
    | nil => simp [join, words, splitWhen_of_forall hsolid, hne]
    | cons next ws =>
      have hjoin : join [' '] (w :: next :: ws) = w ++ ' ' :: join [' '] (next :: ws) := by
        simp [join]
      rw [hjoin, words, splitWhen_append_cons hsolid (by decide)]
      exact (List.filter_cons_of_pos (by simpa using hne)).trans (congrArg (w :: ·) (ih hrest))

/-- Words in small letters are words. -/
theorem of_mem_map_lowercase {cs word : List Char} (h : word ∈ (words cs).map lowercase) :
    word ≠ [] ∧ ∀ c ∈ word, isWhitespace c = false := by
  obtain ⟨w, hw, rfl⟩ := List.mem_map.1 h
  obtain ⟨hne, hsolid⟩ := of_mem_words hw
  exact ⟨lowercase_ne_nil hne, fun c hc => isWhitespace_of_mem_lowerFrom hsolid hc⟩

theorem toList_normalize (line : String) :
    (normalize line).toList = join [' '] ((words line.toList).map lowercase) :=
  String.toList_ofList

/-- A normal form has the words of its line in small letters, in the same order. -/
theorem words_normalize (line : String) :
    words (normalize line).toList = (words line.toList).map lowercase := by
  rw [toList_normalize]
  exact words_join fun _ => of_mem_map_lowercase

/-- The normal form of a line is its own normal form. -/
theorem normalize_idem (line : String) : normalize (normalize line) = normalize line := by
  have hsmall : ((words line.toList).map lowercase).map lowercase
      = (words line.toList).map lowercase := by
    rw [List.map_map]
    exact List.map_congr_left fun word _ => lowercase_lowercase word
  rw [normalize, words_normalize, hsmall, normalize]

theorem eq_space_of_mem_join {ws : List (List Char)} (h : ∀ w ∈ ws, ∀ c ∈ w, isWhitespace c = false)
    {c : Char} (hc : c ∈ join [' '] ws) (hspace : isWhitespace c = true) : c = ' ' := by
  induction ws with
  | nil => cases hc
  | cons w ws ih =>
    obtain ⟨hw, hrest⟩ := List.forall_mem_cons.1 h
    have hsolid : c ∉ w := fun hmem => by
      rw [hw c hmem] at hspace
      cases hspace
    cases ws with
    | nil => exact absurd hc hsolid
    | cons next ws =>
      rcases List.mem_append.1 hc with hc | hc
      · simpa [hsolid] using hc
      · exact ih hrest hc

/-- The only white space of a normal form are spaces. -/
theorem eq_space_of_mem_normalize {line : String} {c : Char} (hc : c ∈ (normalize line).toList)
    (hspace : isWhitespace c = true) : c = ' ' := by
  rw [toList_normalize] at hc
  exact eq_space_of_mem_join (fun w hw => (of_mem_map_lowercase hw).2) hc hspace

/-- Between the words of a normal form there is one space, and none outside. -/
theorem normalize_spaced (line : String) :
    (normalize line).toList.head? ≠ some ' ' ∧ (normalize line).toList.getLast? ≠ some ' ' ∧
      ¬ [' ', ' '] <:+: (normalize line).toList := by
  rcases wellSpaced_of_normalize (normalize_idem line) with hempty | hspaced
  · rw [hempty]
    simp
  · exact ⟨hspaced.head, hspaced.last, hspaced.single⟩

/-! ## Replacing phrases by phrases of the same meaning -/

/-- What is made of the characters of a text is made of it still after a replacement, if the same
is made of the phrase and of the value. -/
theorem flatMap_replaceChars {β : Type} {f : Char → List β} {phrase value : List Char}
    (hne : phrase ≠ []) (hvalue : value.flatMap f = phrase.flatMap f) :
    ∀ cs : List Char, (replaceChars phrase value cs).flatMap f = cs.flatMap f
  | [] => by rw [replaceChars, replaceFrom]
  | c :: rest => by
    obtain ⟨p, tail, rfl⟩ := List.exists_cons_of_ne_nil hne
    by_cases hbegins : p :: tail <+: c :: rest
    · obtain ⟨after, hafter⟩ := hbegins
      have hlength : after.length ≤ rest.length := by
        have hlength := congrArg List.length hafter
        simp only [List.length_append, List.length_cons] at hlength
        omega
      rw [← hafter, replaceChars_phrase_append, List.flatMap_append, List.flatMap_append, hvalue,
        flatMap_replaceChars hne hvalue after]
    · have hkeep : replaceChars (p :: tail) value (c :: rest)
          = c :: replaceChars (p :: tail) value rest := by
        rw [replaceChars, replaceFrom, if_neg (by rwa [List.isPrefixOf_iff_prefix])]
        rfl
      rw [hkeep, List.flatMap_cons, List.flatMap_cons, flatMap_replaceChars hne hvalue rest]
termination_by cs => cs.length
decreasing_by
  · exact Nat.lt_succ_of_le hlength
  · exact Nat.lt_succ_self _

theorem mem_replaceFrom {phrase value cs : List Char} {skip : Nat} {c : Char}
    (h : c ∈ replaceFrom phrase value skip cs) : c ∈ value ∨ c ∈ cs := by
  induction cs generalizing skip with
  | nil => cases skip <;> cases h
  | cons d rest ih =>
    cases skip with
    | succ skip => exact (ih h).imp_right (List.mem_cons_of_mem _)
    | zero =>
      rw [replaceFrom] at h
      split at h
      · rcases List.mem_append.1 h with h | h
        · exact .inl h
        · exact (ih h).imp_right (List.mem_cons_of_mem _)
      · rcases List.mem_cons.1 h with rfl | h
        · exact .inr List.mem_cons_self
        · exact (ih h).imp_right (List.mem_cons_of_mem _)

end Text

/-! ## Commands -/

/-- A line and its normal form are read as the same command and leave the same state of play. -/
theorem Act.parse_normalize (line : String) (p : Play) :
    Act.parse (Text.normalize line) p = Act.parse line p := by
  unfold Act.parse Command.parse
  rw [Text.normalize_idem]

/-! ## Templates -/

namespace Template

open Unicode Text

/-- A text with its markers in capital letters. -/
def markCapitals (cs : List Char) : List Char :=
  replaceChars ['<', 'b', '>'] ['<', 'B', '>'] (replaceChars ['<', 'a', '>'] ['<', 'A', '>'] cs)

theorem toList_normalize (raw : String) :
    (normalize raw).toList = markCapitals (lowercase raw.toList) :=
  String.toList_ofList

/-- With capital markers a text still has the same small letters. -/
theorem lowercase_markCapitals {cs : List Char} (h : ∀ c ∈ cs, lowerChar c = [c]) :
    lowercase (markCapitals cs) = cs := by
  have hsigma : 'Σ' ∉ markCapitals cs := by
    intro hmem
    rcases mem_replaceFrom hmem with hmem | hmem
    · revert hmem
      decide
    · rcases mem_replaceFrom hmem with hmem | hmem
      · revert hmem
        decide
      · exact absurd (h _ hmem) (by decide +kernel)
  rw [lowercase_eq_flatMap hsigma, markCapitals,
    flatMap_replaceChars (List.cons_ne_nil _ _) (by decide +kernel),
    flatMap_replaceChars (List.cons_ne_nil _ _) (by decide +kernel),
    List.flatMap_congr h, List.flatMap_singleton']

/-- The normal form of a template is its own normal form. -/
theorem normalize_idem (raw : String) : normalize (normalize raw) = normalize raw := by
  have hsmall : ∀ c ∈ lowercase raw.toList, lowerChar c = [c] := fun _ =>
    lowerChar_of_mem_lowerFrom
  rw [← String.toList_inj, toList_normalize, toList_normalize, lowercase_markCapitals hsmall]

/-- The text of a token with the markers in given letters. -/
def Token.spelled (letter : Marker → Char) : Token → List Char
  | .marker m => ['<', letter m, '>']
  | token => token.chars

/-- The small letter of a marker. -/
def smallLetter : Marker → Char
  | .a => 'a'
  | .b => 'b'

theorem ne_opening_of_plain {c : Char} (h : isPlain c = true) : '<' ∉ [c] := by
  have hne := (ne_of_isPlain h).1
  simpa using hne.symm

theorem lowerChar_of_isPlain {c : Char} (h : isPlain c = true) : lowerChar c = [c] := by
  rcases isPlain_iff.1 h with rfl | hletter
  · decide +kernel
  · exact lowerChar_of_isLetter hletter

theorem flatMap_lowerChar_token {token : Token} (h : token.Plain) :
    token.chars.flatMap lowerChar = token.spelled smallLetter := by
  cases token with
  | letter c => simpa [Token.chars, Token.spelled] using lowerChar_of_isPlain h
  | opening | closing => decide +kernel
  | marker m => cases m <;> decide +kernel

/-- The first pass finds the markers `<a>` and no others. -/
theorem replaceChars_a {token : Token} (h : token.Plain) (rest : List Char) :
    replaceChars ['<', 'a', '>'] ['<', 'A', '>'] (token.spelled smallLetter ++ rest)
      = token.spelled (fun | .a => 'A' | .b => 'b')
        ++ replaceChars ['<', 'a', '>'] ['<', 'A', '>'] rest := by
  cases token with
  | letter c => exact replaceChars_append_of_notMem (ne_opening_of_plain h) rest
  | opening | closing => exact replaceChars_append_of_notMem (by decide) rest
  | marker m =>
    cases m with
    | a => exact replaceChars_phrase_append rest
    | b => simp [Token.spelled, smallLetter, replaceChars, replaceFrom, List.isPrefixOf]

/-- The second pass finds the markers `<b>`. -/
theorem replaceChars_b {token : Token} (h : token.Plain) (rest : List Char) :
    replaceChars ['<', 'b', '>'] ['<', 'B', '>']
        (token.spelled (fun | .a => 'A' | .b => 'b') ++ rest)
      = token.chars ++ replaceChars ['<', 'b', '>'] ['<', 'B', '>'] rest := by
  cases token with
  | letter c => exact replaceChars_append_of_notMem (ne_opening_of_plain h) rest
  | opening | closing => exact replaceChars_append_of_notMem (by decide) rest
  | marker m =>
    cases m with
    | a => simp [Token.spelled, Token.chars, Marker.letter, replaceChars, replaceFrom,
        List.isPrefixOf]
    | b => exact replaceChars_phrase_append rest

/-- The text of tokens has capital markers already. -/
theorem markCapitals_lowercase {tokens : List Token} (h : ∀ token ∈ tokens, token.Plain) :
    markCapitals (lowercase (tokens.flatMap Token.chars)) = tokens.flatMap Token.chars := by
  have hsigma : 'Σ' ∉ tokens.flatMap Token.chars := by
    intro hmem
    obtain ⟨token, htoken, hc⟩ := List.mem_flatMap.1 hmem
    have hplain := h token htoken
    cases token with
    | letter c =>
      obtain rfl := List.mem_singleton.1 hc
      exact absurd (Token.plain_letter.1 hplain) (by decide)
    | opening | closing => exact absurd hc (by decide)
    | marker m => cases m <;> exact absurd hc (by decide)
  have hsmall : lowercase (tokens.flatMap Token.chars)
      = tokens.flatMap (Token.spelled smallLetter) := by
    rw [lowercase_eq_flatMap hsigma, List.flatMap_assoc]
    exact List.flatMap_congr fun token htoken => flatMap_lowerChar_token (h token htoken)
  rw [hsmall, markCapitals,
    flatMap_of_append rfl fun token htoken => replaceChars_a (h token htoken),
    flatMap_of_append rfl fun token htoken => replaceChars_b (h token htoken)]

/-- A text that is read as a template is in normal form. -/
theorem normalize_of_parse? {arity : Nat} {text : String} {template : Template}
    (h : parse? arity text = .ok template) : normalize text = text := by
  have hcomposed := parse?_eq_ok_iff.1 h
  have hplain := (forall_wellFormed_iff.1 hcomposed.wellFormed).1
  rw [← String.toList_inj, toList_normalize, hcomposed.chars_eq, ← flatMap_chars]
  exact markCapitals_lowercase hplain

end Template

namespace Text

open Unicode

/-- Normal forms stay as they are. The normal form of a line has the words of the line in small
letters, with one space between them and no other white space, and is read as the same command
whatever the state of play. A text that is read as a template is in normal form. -/
theorem normalForms_stay :
    (∀ line : String, normalize (normalize line) = normalize line ∧
      (∀ c ∈ (normalize line).toList.head?, isWhitespace c = false) ∧
      (∀ c ∈ (normalize line).toList.getLast?, isWhitespace c = false) ∧
      (∀ c ∈ (normalize line).toList, isWhitespace c = true → c = ' ') ∧
      ¬ [' ', ' '] <:+: (normalize line).toList ∧
      words (normalize line).toList = (words line.toList).map lowercase ∧
      ∀ word ∈ words (normalize line).toList, word ≠ []) ∧
    (∀ (line : String) (p : Play), Act.parse (normalize line) p = Act.parse line p) ∧
    (∀ raw : String, Template.normalize (Template.normalize raw) = Template.normalize raw) ∧
    ∀ (arity : Nat) (text : String), (∃ template, Template.parse? arity text = .ok template) →
      Template.normalize text = text := by
  refine ⟨fun line => ?_, Act.parse_normalize, Template.normalize_idem, ?_⟩
  · obtain ⟨hhead, hlast, hsingle⟩ := normalize_spaced line
    have hspace (c : Char) (hc : c ∈ (normalize line).toList) : isWhitespace c = true → c = ' ' :=
      eq_space_of_mem_normalize hc
    refine ⟨normalize_idem line, fun c hc => ?_, fun c hc => ?_, hspace, hsingle,
      words_normalize line, fun word hword => (of_mem_words hword).1⟩
    · refine Bool.eq_false_iff.2 fun hblank => hhead ?_
      rw [hspace c (List.mem_of_mem_head? hc) hblank] at hc
      exact hc
    · refine Bool.eq_false_iff.2 fun hblank => hlast ?_
      rw [hspace c (List.mem_of_mem_getLast? hc) hblank] at hc
      exact hc
  · rintro arity text ⟨template, htemplate⟩
    exact Template.normalize_of_parse? htemplate

/-- Where a marker follows a group, the template is in normal form. -/
theorem normalForms_stay_take : (∃ template, Template.parse? 1 "take [the ]<A>" = .ok template) ∧
    Template.normalize "take [the ]<A>" = "take [the ]<A>" :=
  ⟨⟨_, rfl⟩, normalForms_stay.2.2.2 1 "take [the ]<A>" ⟨_, rfl⟩⟩

end Text

end Adventure
