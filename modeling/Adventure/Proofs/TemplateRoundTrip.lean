import Adventure.Proofs.TemplateGrammar
import Adventure.Proofs.Captures

/-!
# Templates are read back from regular expressions

The regular expression that a template is written as leads back to the text of the template,
whatever number its captures are counted from (`Template.ofRegexText_regexText`). So two templates
for the same number of objects are never written as the same expression.

The way back has three steps, and each of them is followed through the pieces one by one. Captures
are found and give way to markers: a bracket that no `?<o` follows begins no capture. Then `(?:`
gives way to `[` and `)?` to `]`: all pieces but groups are free of round brackets by then, so the
phrases that are looked for occur only where a group begins and ends.
-/

namespace Adventure

/-! ## Replacing phrases -/

namespace Text

variable {p : Char} {phrase value : List Char}

theorem replaceFrom_skip (phrase value skipped rest : List Char) :
    replaceFrom phrase value skipped.length (skipped ++ rest)
      = replaceFrom phrase value 0 rest := by
  induction skipped with
  | nil => rfl
  | cons c skipped ih => exact ih

/-- A character that the phrase does not begin with stays. -/
theorem replaceChars_cons_of_ne {c : Char} (h : c ≠ p) (rest : List Char) :
    replaceChars (p :: phrase) value (c :: rest) = c :: replaceChars (p :: phrase) value rest := by
  have hphrase : (p :: phrase).isPrefixOf (c :: rest) = false := by simp [List.isPrefixOf, h.symm]
  simp [replaceChars, replaceFrom, hphrase]

/-- Characters among which the first one of the phrase is not stay. -/
theorem replaceChars_append_of_notMem {cs : List Char} (h : p ∉ cs) (rest : List Char) :
    replaceChars (p :: phrase) value (cs ++ rest)
      = cs ++ replaceChars (p :: phrase) value rest := by
  induction cs with
  | nil => rfl
  | cons c cs ih =>
    obtain ⟨hc, hcs⟩ := List.ne_and_not_mem_of_not_mem_cons h
    rw [List.cons_append, replaceChars_cons_of_ne hc.symm, ih hcs, List.cons_append]

/-- The phrase gives way to the value. -/
theorem replaceChars_phrase_append (rest : List Char) :
    replaceChars (p :: phrase) value (p :: phrase ++ rest)
      = value ++ replaceChars (p :: phrase) value rest := by
  have hphrase : (p :: phrase).isPrefixOf (p :: phrase ++ rest) = true :=
    List.isPrefixOf_iff_prefix.2 (List.prefix_append _ _)
  rw [List.cons_append] at hphrase
  simp only [replaceChars, List.cons_append, replaceFrom, hphrase, if_pos]
  exact congrArg (value ++ ·) (replaceFrom_skip _ _ phrase rest)

end Text

namespace Template

/-! ## Numbers of captures -/

/-- The digits of a number. -/
def digits (n : Nat) : List Char := Nat.toDigits 10 n

theorem toList_captureName (n : Nat) : (captureName n).toList = 'o' :: digits n := by
  simp [captureName, digits]

theorem digits_ne_nil (n : Nat) : digits n ≠ [] := by simp [digits]

theorem isDigit_of_mem_digits {n : Nat} {c : Char} (h : c ∈ digits n) : c.isDigit = true :=
  Nat.isDigit_of_mem_toDigits (by omega) (by omega) h

/-- What holds of all ten digits of plain numbers can be found out by trying them. -/
theorem of_isDigit {q : Char → Prop} (h : ∀ n < 58, 48 ≤ n → q (Char.ofNat n)) {c : Char}
    (hc : c.isDigit = true) : q c := by
  obtain ⟨hlow, hhigh⟩ := Char.isDigit_iff_toNat.1 hc
  simpa using h c.toNat (Nat.lt_succ_of_le hhigh) hlow

theorem isDecimalDigit_of_isDigit {c : Char} (h : c.isDigit = true) :
    Unicode.isDecimalDigit c = true :=
  of_isDigit (q := fun c => Unicode.isDecimalDigit c = true) (by decide) h

/-- The digits of a number of at most 64 bits write this number. -/
theorem captureNumber?_digits {n : Nat} (h : n < UInt64.size) :
    captureNumber? (digits n) = some n := by
  have hall : (digits n).all Char.isDigit = true :=
    List.all_eq_true.2 fun c hc => isDigit_of_mem_digits hc
  have hvalue : (digits n).foldl (fun n d => 10 * n + (d.toNat - 48)) 0 = n :=
    Nat.ofDigitChars_ten_toDigits
  rw [captureNumber?, if_pos hall, hvalue, if_pos h]

/-! ## Stretches -/

theorem stretches_skip (skipped rest : List Char) :
    stretches skipped.length (skipped ++ rest) = stretches 0 rest := by
  induction skipped with
  | nil => rfl
  | cons c skipped ih => exact ih

/-- The text of a capture with a given number. -/
def captureChars (n : Nat) : List Char :=
  ['(', '?', '<'] ++ (captureName n).toList ++ ['>', '\\', 'w', '+', ')']

theorem captureChars_append (n : Nat) (rest : List Char) : captureChars n ++ rest
    = '(' :: '?' :: '<' :: 'o' :: (digits n ++ ('>' :: '\\' :: 'w' :: '+' :: ')' :: rest)) := by
  simp [captureChars, toList_captureName]

/-- A capture is found with the digits of its number. -/
theorem leadingCapture?_captureChars (n : Nat) (rest : List Char) :
    leadingCapture? (captureChars n ++ rest) = some (digits n) := by
  have hall : ∀ c ∈ digits n, Unicode.isDecimalDigit c = true := fun c hc =>
    isDecimalDigit_of_isDigit (isDigit_of_mem_digits hc)
  have hstop : Unicode.isDecimalDigit '>' = false := by decide
  rw [captureChars_append]
  simp [leadingCapture?, List.takeWhile_append_of_pos hall, List.dropWhile_append_of_pos hall,
    hstop, digits_ne_nil, List.isPrefixOf]

theorem stretches_captureChars (n : Nat) (rest : List Char) :
    stretches 0 (captureChars n ++ rest) = .capture (digits n) :: stretches 0 rest := by
  have hfound := leadingCapture?_captureChars n rest
  rw [captureChars_append] at hfound ⊢
  rw [stretches, hfound]
  have hskip := stretches_skip ('?' :: '<' :: 'o' :: (digits n ++ ['>', '\\', 'w', '+', ')'])) rest
  simpa using hskip

/-- A character at which no capture begins is a stretch by itself. -/
theorem stretches_cons {c : Char} {rest : List Char} (h : leadingCapture? (c :: rest) = none) :
    stretches 0 (c :: rest) = .char c :: stretches 0 rest := by
  rw [stretches, h]

theorem leadingCapture?_cons_of_ne {c : Char} (h : c ≠ '(') (rest : List Char) :
    leadingCapture? (c :: rest) = none := by
  simp [leadingCapture?, h.symm]

/-- Characters without an opening bracket are stretches by themselves. -/
theorem stretches_append_of_notMem {cs : List Char} (h : '(' ∉ cs) (rest : List Char) :
    stretches 0 (cs ++ rest) = cs.map .char ++ stretches 0 rest := by
  induction cs with
  | nil => rfl
  | cons c cs ih =>
    obtain ⟨hc, hcs⟩ := List.ne_and_not_mem_of_not_mem_cons h
    rw [List.cons_append, stretches_cons (leadingCapture?_cons_of_ne hc.symm _), ih hcs]
    rfl

/-! ## Pieces -/

/-- The text of a piece with the given signs for the brackets of a group. -/
def Piece.spell (opening closing : List Char) : Piece → List Char
  | .letter c => [c]
  | .group g => opening ++ g ++ closing
  | .slot m => ['<', m.letter, '>']

theorem spell_brackets : Piece.spell ['['] [']'] = Piece.chars := by
  funext piece
  cases piece <;> simp [Piece.spell, Piece.chars]

/-- A piece as stretches of a regular expression whose captures are numbered from `base`. -/
def Piece.stretches (base : Nat) : Piece → List Stretch
  | .letter c => [.char c]
  | .group g => (['(', '?', ':'] ++ g ++ [')', '?']).map .char
  | .slot m => [.capture (digits (base + Pattern.captureIndex m))]

theorem group_regexChars (base : Nat) (g : List Char) :
    (Piece.group g).regexChars base = ['(', '?', ':'] ++ g ++ [')', '?'] := rfl

theorem slot_regexChars (base : Nat) (m : Marker) :
    (Piece.slot m).regexChars base = captureChars (base + Pattern.captureIndex m) := by
  cases m <;> rfl

/-- A character that is neither a letter nor a space is not among the characters of a group. -/
theorem notMem_of_isPlain {g : List Char} (h : ∀ c ∈ g, isPlain c = true) {c : Char}
    (hc : isPlain c = false) : c ∉ g := fun hmem => by
  rw [h c hmem] at hc
  cases hc

theorem ne_of_isPlain_of_not {c d : Char} (h : isPlain c = true) (hd : isPlain d = false) :
    c ≠ d := by
  rintro rfl
  rw [h] at hd
  cases hd

/-- What takes a list apart piece by piece does so with all pieces in turn. -/
theorem flatMap_of_append {α β γ : Type} {F : List β → List γ} {f : α → List β} {g : α → List γ}
    (hnil : F [] = []) {xs : List α} (h : ∀ x ∈ xs, ∀ rest, F (f x ++ rest) = g x ++ F rest) :
    F (xs.flatMap f) = xs.flatMap g := by
  induction xs with
  | nil => exact hnil
  | cons x xs ih =>
    obtain ⟨hx, hxs⟩ := List.forall_mem_cons.1 h
    rw [List.flatMap_cons, hx, ih hxs, List.flatMap_cons]

theorem stretches_piece {piece : Piece} (h : piece.WellFormed) (base : Nat) (rest : List Char) :
    stretches 0 (piece.regexChars base ++ rest) = piece.stretches base ++ stretches 0 rest := by
  cases piece with
  | letter c =>
    exact stretches_cons (leadingCapture?_cons_of_ne (ne_of_isPlain_of_not h (by decide)) rest)
  | group g =>
    have hfirst : leadingCapture? ('(' :: (('?' :: ':' :: (g ++ [')', '?'])) ++ rest)) = none := by
      simp [leadingCapture?, List.isPrefixOf]
    have hothers : '(' ∉ '?' :: ':' :: (g ++ [')', '?']) := by
      have hg := notMem_of_isPlain h.1 (c := '(') (by decide)
      simp [hg]
    have hwhole : (Piece.group g).regexChars base ++ rest
        = '(' :: (('?' :: ':' :: (g ++ [')', '?'])) ++ rest) := rfl
    rw [hwhole, stretches_cons hfirst, stretches_append_of_notMem hothers]
    rfl
  | slot m =>
    rw [slot_regexChars, stretches_captureChars]
    rfl

/-- The first replacement turns the beginnings of groups into brackets. -/
theorem replaceChars_opening {piece : Piece} (h : piece.WellFormed) (rest : List Char) :
    Text.replaceChars ['(', '?', ':'] ['['] (piece.spell ['(', '?', ':'] [')', '?'] ++ rest)
      = piece.spell ['['] [')', '?'] ++ Text.replaceChars ['(', '?', ':'] ['['] rest := by
  cases piece with
  | letter c =>
    exact Text.replaceChars_append_of_notMem
      (notMem_of_isPlain (List.forall_mem_singleton.2 h) (by decide)) rest
  | group g =>
    have hg := notMem_of_isPlain h.1 (c := '(') (by decide)
    simp only [Piece.spell, List.append_assoc]
    rw [Text.replaceChars_phrase_append, Text.replaceChars_append_of_notMem hg,
      Text.replaceChars_append_of_notMem (by decide)]
  | slot m => cases m <;> exact Text.replaceChars_append_of_notMem (by decide) rest

/-- The second replacement turns the ends of groups into brackets. -/
theorem replaceChars_closing {piece : Piece} (h : piece.WellFormed) (rest : List Char) :
    Text.replaceChars [')', '?'] [']'] (piece.spell ['['] [')', '?'] ++ rest)
      = piece.spell ['['] [']'] ++ Text.replaceChars [')', '?'] [']'] rest := by
  cases piece with
  | letter c =>
    exact Text.replaceChars_append_of_notMem
      (notMem_of_isPlain (List.forall_mem_singleton.2 h) (by decide)) rest
  | group g =>
    have hg := notMem_of_isPlain h.1 (c := ')') (by decide)
    simp only [Piece.spell, List.append_assoc]
    rw [Text.replaceChars_append_of_notMem (by decide), Text.replaceChars_append_of_notMem hg,
      Text.replaceChars_phrase_append]
  | slot m => cases m <;> exact Text.replaceChars_append_of_notMem (by decide) rest

/-! ## The way back -/

/-- The numbers of the captures among stretches. -/
def captureNumbers (parts : List Stretch) : List Nat :=
  parts.filterMap fun
    | .capture digits => captureNumber? digits
    | .char _ => none

/-- A stretch with the marker in the place of a capture, where `base` is the number of `<A>`. -/
def Stretch.marked (base : Nat) : Stretch → List Char
  | .char c => [c]
  | .capture digits =>
    if (captureNumber? digits).getD base = base then ['<', 'A', '>'] else ['<', 'B', '>']

theorem ofRegexText_eq (pattern : String) : ofRegexText pattern =
    String.ofList (Text.replaceChars [')', '?'] [']'] (Text.replaceChars ['(', '?', ':'] ['[']
      ((stretches 0 pattern.toList).flatMap
        (Stretch.marked ((captureNumbers (stretches 0 pattern.toList)).min?.getD 0))))) := by
  rfl

theorem captureNumber?_captureIndex {base : Nat} (hbase : base + 1 < UInt64.size) (m : Marker) :
    captureNumber? (digits (base + Pattern.captureIndex m))
      = some (base + Pattern.captureIndex m) := by
  refine captureNumber?_digits ?_
  cases m with
  | a => exact Nat.lt_of_succ_lt hbase
  | b => exact hbase

theorem flatMap_marked_map_char (base : Nat) (cs : List Char) :
    (cs.map Stretch.char).flatMap (Stretch.marked base) = cs := by
  induction cs with
  | nil => rfl
  | cons c cs ih => rw [List.map_cons, List.flatMap_cons, ih]; rfl

/-- With the captures marked a piece has its own markers, if `<A>` is told by its number. -/
theorem marked_stretches {base lowest : Nat} (hbase : base + 1 < UInt64.size) {piece : Piece}
    (h : ∀ m, piece = .slot m → lowest = base) :
    (piece.stretches base).flatMap (Stretch.marked lowest)
      = piece.spell ['(', '?', ':'] [')', '?'] := by
  cases piece with
  | letter c => rfl
  | group g => exact flatMap_marked_map_char lowest _
  | slot m =>
    obtain rfl := h m rfl
    have hmarked : Stretch.marked lowest (.capture (digits (lowest + Pattern.captureIndex m)))
        = if lowest + Pattern.captureIndex m = lowest then ['<', 'A', '>']
          else ['<', 'B', '>'] := by
      rw [Stretch.marked, captureNumber?_captureIndex hbase, Option.getD_some]
    rw [Piece.stretches, List.flatMap_singleton, hmarked]
    cases m <;> simp [Piece.spell, Pattern.captureIndex, Marker.letter]

theorem captureNumbers_piece {base : Nat} (hbase : base + 1 < UInt64.size) (piece : Piece) :
    captureNumbers (piece.stretches base)
      = (piece.marker?.map fun m => base + Pattern.captureIndex m).toList := by
  cases piece with
  | letter c => rfl
  | group g => simp [captureNumbers, Piece.stretches, Piece.marker?, List.filterMap_map]
  | slot m =>
    simp [captureNumbers, Piece.stretches, Piece.marker?, captureNumber?_captureIndex hbase]

/-- The captures of pieces have the numbers of their markers. -/
theorem captureNumbers_pieces {base : Nat} (hbase : base + 1 < UInt64.size) (pieces : List Piece) :
    captureNumbers (pieces.flatMap (Piece.stretches base))
      = (markers pieces).map fun m => base + Pattern.captureIndex m := by
  have happend : ∀ first rest, captureNumbers (first ++ rest)
      = captureNumbers first ++ captureNumbers rest := fun _ _ => List.filterMap_append
  induction pieces with
  | nil => rfl
  | cons piece pieces ih =>
    rw [List.flatMap_cons, happend, ih, captureNumbers_piece hbase]
    simp only [markers, List.filterMap_cons]
    cases piece.marker? <;> rfl

/-- The lowest number of a capture is that of `<A>`, if there is a capture at all. -/
theorem min?_captureNumbers {base : Nat} (hbase : base + 1 < UInt64.size) {pieces : List Piece}
    (ha : .slot .a ∈ pieces) :
    (captureNumbers (pieces.flatMap (Piece.stretches base))).min? = some base := by
  rw [captureNumbers_pieces hbase, List.min?_eq_some_iff]
  refine ⟨List.mem_map.2 ⟨.a, mem_markers.2 ha, rfl⟩, fun n hn => ?_⟩
  obtain ⟨m, -, rfl⟩ := List.mem_map.1 hn
  exact Nat.le_add_right _ _

/-- The way back from the regular expression of well-formed pieces leads to their text. -/
theorem ofRegexText_pieces {base : Nat} (hbase : base + 1 < UInt64.size) {pieces : List Piece}
    (hformed : ∀ piece ∈ pieces, piece.WellFormed)
    (hslots : ∀ m, .slot m ∈ pieces → .slot .a ∈ pieces) :
    ofRegexText (regexText ⟨pieces⟩ base) = String.ofList (pieces.flatMap Piece.chars) := by
  have hstretches : stretches 0 (pieces.flatMap (Piece.regexChars base))
      = pieces.flatMap (Piece.stretches base) :=
    flatMap_of_append rfl fun piece hpiece => stretches_piece (hformed piece hpiece) base
  have hmarked : ∀ piece ∈ pieces,
      (piece.stretches base).flatMap (Stretch.marked
        ((captureNumbers (pieces.flatMap (Piece.stretches base))).min?.getD 0))
      = piece.spell ['(', '?', ':'] [')', '?'] := by
    intro piece hpiece
    refine marked_stretches hbase ?_
    rintro m rfl
    rw [min?_captureNumbers hbase (hslots m hpiece), Option.getD_some]
  have hopening : Text.replaceChars ['(', '?', ':'] ['[']
      (pieces.flatMap (Piece.spell ['(', '?', ':'] [')', '?']))
      = pieces.flatMap (Piece.spell ['['] [')', '?']) :=
    flatMap_of_append rfl fun piece hpiece => replaceChars_opening (hformed piece hpiece)
  have hclosing : Text.replaceChars [')', '?'] [']'] (pieces.flatMap (Piece.spell ['['] [')', '?']))
      = pieces.flatMap (Piece.spell ['['] [']']) :=
    flatMap_of_append rfl fun piece hpiece => replaceChars_closing (hformed piece hpiece)
  rw [ofRegexText_eq, regexText, String.toList_ofList, hstretches, List.flatMap_assoc,
    List.flatMap_congr hmarked, hopening, hclosing, spell_brackets]

/-- A command that names any object names a first one. -/
theorem expected_a_pos {arity : Nat} {m : Marker} (h : 0 < expected arity m) :
    0 < expected arity .a := by
  cases m with
  | a => exact h
  | b =>
    have hb : 2 ≤ arity := by
      by_contra hlt
      simp [expected, hlt] at h
    simp [expected, show 1 ≤ arity by omega]

/-- The regular expression of a template leads back to its text. -/
theorem ofRegexText_regexText {arity base : Nat} {text : String} {template : Template}
    (h : parse? arity text = .ok template) (hbase : base + 1 < UInt64.size) :
    ofRegexText (template.regexText base) = text := by
  have hcomposed := parse?_eq_ok_iff.1 h
  have hslots : ∀ m, .slot m ∈ template.pieces → .slot .a ∈ template.pieces := by
    intro m hm
    rw [← List.count_pos_iff, hcomposed.count_slot] at hm ⊢
    exact expected_a_pos hm
  rw [ofRegexText_pieces hbase hcomposed.wellFormed hslots, ← hcomposed.chars_eq,
    String.ofList_toList]

/-- A template can be written as a regular expression with captures counted from any number that
leaves room for two, and is read back from it; no other template for the same number of objects
is written as the same expression. -/
theorem regexText_roundTrip {arity base : Nat} (hbase : base + 1 < UInt64.size) {text : String}
    (hvalid : ∃ template, parse? arity text = .ok template) :
    ∃ template, parse? arity text = .ok template ∧
      ofRegexText (template.regexText base) = text ∧ ofRegexText (template.regexText 0) = text ∧
      ∀ other template', parse? arity other = .ok template' →
        template'.regexText base = template.regexText base → other = text := by
  obtain ⟨template, htemplate⟩ := hvalid
  have hback := ofRegexText_regexText htemplate hbase
  refine ⟨template, htemplate, hback, ofRegexText_regexText htemplate (by decide), ?_⟩
  intro other template' hother hsame
  rw [← ofRegexText_regexText hother hbase, hsame, hback]

/-- A template with a group and its markers in the other order, with captures of two digits. -/
theorem regexText_roundTrip_give : (98 + 1 < UInt64.size ∧
      ∃ template, parse? 2 "give <B> [to the ]<A>" = .ok template) ∧
    ∃ template, parse? 2 "give <B> [to the ]<A>" = .ok template ∧
      ofRegexText (template.regexText 98) = "give <B> [to the ]<A>" ∧
      ofRegexText (template.regexText 0) = "give <B> [to the ]<A>" ∧
      ∀ other template', parse? 2 other = .ok template' →
        template'.regexText 98 = template.regexText 98 → other = "give <B> [to the ]<A>" :=
  have hvalid : ∃ template, parse? 2 "give <B> [to the ]<A>" = .ok template := ⟨_, rfl⟩
  ⟨⟨by decide, hvalid⟩, regexText_roundTrip (by decide) hvalid⟩

end Template

end Adventure
