import Adventure.Ron.Parser
import Mathlib.Data.Bool.AllAny

/-!
# Words of RON are read back

How the scanners take apart what is printed: blanks are skipped up to the next word
(`blanks_indent`), and a name is read as it is (`identifier?_name`, `afterKeyword?_name`). Names
are plain: they consist of letters, digits and underscores of ASCII. Only a few marks can follow
one (`Marked`), none of which can be taken for a part of it.
-/

namespace Adventure.Ron

open Scan

/-! ## Steps of scanners -/

theorem bind_of_some {α β : Type} {m : Scan α} {f : α → Scan β} {text rest : List Char} {a : α}
    (h : m text = some (a, rest)) : (m >>= f) text = f a rest := by
  simp [bind, StateT.bind, h]

/-! ## Blanks -/

/-- Nothing, or a text that begins neither with a blank nor with a comment. -/
def Dense (text : List Char) : Prop := ∀ c ∈ text.head?, isBlank c = false ∧ c ≠ '/'

theorem dense_cons {c : Char} {text : List Char} (h : isBlank c = false ∧ c ≠ '/') :
    Dense (c :: text) := by
  intro d hd
  obtain rfl : c = d := by simpa using hd
  exact h

theorem afterBlanks?_dense {text : List Char} (h : Dense text) :
    afterBlanks? .words text = some text := by
  rcases text with _ | ⟨c, _ | ⟨d, text⟩⟩
  · rfl
  · obtain ⟨hblank, hslash⟩ := h c rfl
    simp [afterBlanks?, hblank, hslash]
  · obtain ⟨hblank, hslash⟩ := h c rfl
    simp [afterBlanks?, hblank, hslash]

theorem afterBlanks?_blank {c : Char} (h : isBlank c = true) (text : List Char) :
    afterBlanks? .words (c :: text) = afterBlanks? .words text := by
  have hslash : c ≠ '/' := by rintro rfl; exact absurd h (by decide)
  cases text with
  | nil => simp [afterBlanks?, h]
  | cons d text => simp [afterBlanks?, h, hslash]

theorem afterBlanks?_spaces (n : Nat) (text : List Char) :
    afterBlanks? .words (List.replicate n ' ' ++ text) = afterBlanks? .words text := by
  induction n with
  | zero => rfl
  | succ n ih => rw [List.replicate_succ, List.cons_append, afterBlanks?_blank (by decide), ih]

theorem blanks_of {text rest : List Char} (h : afterBlanks? .words text = some rest) :
    blanks text = some ((), rest) := by
  simp [blanks, h]

theorem blanks_dense {text : List Char} (h : Dense text) : blanks text = some ((), text) :=
  blanks_of (afterBlanks?_dense h)

/-! ## Names -/

/-- Characters of a plain name. -/
def isNamePart (c : Char) : Bool := c.isAlphanum || c == '_'

/-- Whether a text is a plain name. -/
def isName (name : String) : Bool :=
  name.toList.head?.any Char.isAlpha && name.toList.all isNamePart

theorem isNamePart_of_isName {name : String} (h : isName name = true) :
    ∀ c ∈ name.toList, isNamePart c = true := by
  simp only [isName, Bool.and_eq_true, List.all_eq_true] at h
  exact h.2

/-- The marks that can follow a name. -/
def nameEnds : List Char := [',', ')', ':', '(']

/-- Nothing, or a text that begins with a mark that can follow a name. -/
def Marked (text : List Char) : Prop := ∀ c ∈ text.head?, c ∈ nameEnds

theorem marked_cons {c : Char} {text : List Char} (h : c ∈ nameEnds) : Marked (c :: text) := by
  intro d hd
  obtain rfl : c = d := by simpa using hd
  exact h

/-- What holds of all ASCII characters can be found out by trying them. -/
theorem of_ascii {p : Char → Prop} (h : ∀ n < 128, p (Char.ofNat n)) {c : Char}
    (hc : c.toNat < 128) : p c := by
  simpa using h c.toNat hc

theorem toNat_lt_of_isNamePart {c : Char} (h : isNamePart c = true) : c.toNat < 128 := by
  delta isNamePart Char.isAlphanum Char.isAlpha Char.isUpper Char.isLower Char.isDigit at h
  simp only [Bool.or_eq_true, Bool.and_eq_true, decide_eq_true_eq, beq_iff_eq,
    UInt32.le_iff_toNat_le] at h
  rcases h with ((h | h) | h) | rfl
  all_goals first | exact Nat.lt_of_le_of_lt h.2 (by decide) | decide

theorem isIdentifierPart_of_isNamePart {c : Char} (h : isNamePart c = true) :
    Unicode.isIdentifierPart c = true := by
  have hall : ∀ n < 128, isNamePart (Char.ofNat n) = true →
      Unicode.isIdentifierPart (Char.ofNat n) = true := by decide +kernel
  exact of_ascii (p := fun c => isNamePart c = true → Unicode.isIdentifierPart c = true) hall
    (toNat_lt_of_isNamePart h) h

theorem isIdentifierStart_of_isAlpha {c : Char} (h : c.isAlpha = true) :
    Unicode.isIdentifierStart c = true := by
  have hall : ∀ n < 128, (Char.ofNat n).isAlpha = true →
      Unicode.isIdentifierStart (Char.ofNat n) = true := by decide +kernel
  exact of_ascii (p := fun c => c.isAlpha = true → Unicode.isIdentifierStart c = true) hall
    (toNat_lt_of_isNamePart (by simp [isNamePart, Char.isAlphanum, h])) h

/-- No mark that can follow a name is part of a name or a blank. -/
theorem of_mem_nameEnds : ∀ c ∈ nameEnds, isRawPart c = false ∧ Unicode.isIdentifierPart c = false
    ∧ isNamePart c = false ∧ isBlank c = false ∧ c ≠ '/' :=
  List.all_iff_forall_prop.1 (by decide +kernel)

theorem Marked.dense {text : List Char} (h : Marked text) : Dense text := fun c hc =>
  (of_mem_nameEnds c (h c hc)).2.2.2

theorem takeWhile_name {p : Char → Bool} {name rest : List Char} (hname : ∀ c ∈ name, p c = true)
    (hrest : ∀ c ∈ rest.head?, p c = false) :
    (name ++ rest).takeWhile p = name ∧ (name ++ rest).dropWhile p = rest := by
  have hstop : rest.takeWhile p = [] ∧ rest.dropWhile p = rest := by
    cases rest with
    | nil => simp
    | cons c rest => simp [hrest c rfl]
  rw [List.takeWhile_append_of_pos hname, List.dropWhile_append_of_pos hname, hstop.1, hstop.2,
    List.append_nil]
  exact ⟨rfl, rfl⟩

/-- A text in which something else than a name is followed by something else than a mark does not
begin as a name. -/
theorem not_isPrefixOf_name {name rest : List Char} (hname : ∀ c ∈ name, isNamePart c = true)
    (hrest : Marked rest) {opening : List Char}
    (h : (opening.dropWhile isNamePart).head?.any (!nameEnds.contains ·) = true) :
    opening.isPrefixOf (name ++ rest) = false := by
  obtain ⟨c, hc, hends⟩ := (Option.any_eq_true _ _).1 h
  replace hends : c ∉ nameEnds := by simpa using hends
  rw [Bool.eq_false_iff]
  intro hstarts
  obtain ⟨tail, htail⟩ := List.isPrefixOf_iff_prefix.1 hstarts
  have hdrop : (opening ++ tail).dropWhile isNamePart = rest := by
    rw [htail]
    exact (takeWhile_name hname fun c hc => (of_mem_nameEnds c (hrest c hc)).2.2.1).2
  rw [List.dropWhile_append] at hdrop
  cases hopening : opening.dropWhile isNamePart with
  | nil => simp [hopening] at hc
  | cons d rest' =>
    obtain rfl : d = c := by simpa [hopening] using hc
    rw [hopening] at hdrop
    refine hends (hrest d ?_)
    simp [← hdrop]

/-- A name is read as an identifier. -/
theorem identifier?_name {name : String} {rest : List Char} (hname : isName name = true)
    (hrest : Marked rest) : identifier? (name.toList ++ rest) = some (name, rest) := by
  have hall := isNamePart_of_isName hname
  simp only [isName, Bool.and_eq_true] at hname
  have hquotes : quoteOpenings.any (·.isPrefixOf (name.toList ++ rest)) = false := by
    have hmarks : quoteOpenings.all (fun opening =>
        (opening.dropWhile isNamePart).head?.any (!nameEnds.contains ·)) = true := by decide
    rw [List.any_eq_false]
    intro opening hopening
    rw [Bool.not_eq_true]
    exact not_isPrefixOf_name hall hrest (List.all_eq_true.1 hmarks opening hopening)
  have hraw : ['r', '#'].isPrefixOf (name.toList ++ rest) = false :=
    not_isPrefixOf_name hall hrest (by decide)
  have hplain := takeWhile_name (p := Unicode.isIdentifierPart)
    (fun c hc => isIdentifierPart_of_isNamePart (hall c hc))
    (fun c hc => (of_mem_nameEnds c (hrest c hc)).2.1)
  have hraws : ∀ c ∈ name.toList, isRawPart c = true := by
    intro c hc
    simp [isRawPart, isIdentifierPart_of_isNamePart (hall c hc)]
  have hmarked := takeWhile_name hraws fun c hc => (of_mem_nameEnds c (hrest c hc)).1
  cases hchars : name.toList with
  | nil => simp [hchars] at hname
  | cons c cs =>
    have hstart : Unicode.isIdentifierStart c = true :=
      isIdentifierStart_of_isAlpha (by simpa [hchars] using hname.1)
    have hofList : String.ofList (c :: cs) = name := by rw [← hchars, String.ofList_toList]
    rw [hchars] at hquotes hraw hplain hmarked
    simp only [List.cons_append] at hquotes hraw hplain hmarked ⊢
    simp [identifier?, hstart, hquotes, hraw, hplain, hmarked, hofList]

/-- Whether a name is a keyword depends on the whole name. -/
theorem afterKeyword?_name {word name : String} {rest : List Char}
    (hword : ∀ c ∈ word.toList, isNamePart c = true)
    (hname : ∀ c ∈ name.toList, isNamePart c = true) (hrest : Marked rest) :
    afterKeyword? word (name.toList ++ rest) = if name = word then some rest else none := by
  have hparts : ∀ c ∈ rest.head?, isNamePart c = false := fun c hc =>
    (of_mem_nameEnds c (hrest c hc)).2.2.1
  by_cases heq : name = word
  · subst heq
    have hhead : (rest.head?.map Unicode.isIdentifierPart).getD false = false := by
      cases hrest' : rest.head? with
      | none => rfl
      | some c => exact (of_mem_nameEnds c (hrest c hrest')).2.1
    have hstarts : name.toList.isPrefixOf (name.toList ++ rest) = true :=
      List.isPrefixOf_iff_prefix.2 (List.prefix_append _ _)
    have hdrop : (name.toList ++ rest).drop name.length = rest := by
      rw [← String.length_toList, List.drop_left]
    simp [afterKeyword?, hstarts, hdrop, hhead]
  · rw [if_neg heq, afterKeyword?, ite_eq_right_iff, Bool.and_eq_true, Bool.not_eq_true']
    rintro ⟨hstarts, hhead⟩
    exfalso
    obtain ⟨tail, htail⟩ := List.isPrefixOf_iff_prefix.1 hstarts
    have hdrop : (name.toList ++ rest).drop word.length = tail := by
      rw [← htail, ← String.length_toList, List.drop_left]
    rw [hdrop] at hhead
    have hstop : ∀ c ∈ tail.head?, isNamePart c = false := by
      intro c hc
      rw [Bool.eq_false_iff]
      intro hpart
      simp [Option.mem_def.1 hc, isIdentifierPart_of_isNamePart hpart] at hhead
    have hwords : word.toList = name.toList := by
      rw [← (takeWhile_name hword hstop).1, htail, (takeWhile_name hname hparts).1]
    exact heq (String.toList_inj.1 hwords).symm

end Adventure.Ron
