import Adventure.Text.Words
import Adventure.Unicode.LineBreak
import Adventure.Unicode.Width

/-!
# Wrapping text

A text is cut into lines that fit a width. A line that is shorter in bytes than the width stays as
it is. Any other one is cut into words: where a line may be broken, after hyphens between letters
or digits, and wherever else a word is wider than a line. Words are then put on lines so that the
total cost is least: every line costs, space left over at the end of a line costs by its square
except on the last line, and what stands over costs most. Spaces at the ends of lines are left out.
Escape sequences of terminals take no width.
-/

namespace Adventure.Text

open Unicode

/-! ## Escape sequences -/

/-- Where in an escape sequence of a terminal a character is. -/
inductive Escape
  | outside
  | begun
  | control
  | command (last : Char)

/-- The characters with those that belong to no escape sequence marked. -/
def marked : Escape → List Char → List (Char × Bool)
  | _, [] => []
  | .outside, c :: rest =>
    if c = '\x1b' then (c, false) :: marked .begun rest else (c, true) :: marked .outside rest
  | .begun, c :: rest =>
    (c, false) :: marked
      (if c = '[' then .control else if c = ']' then .command c else .outside) rest
  | .control, c :: rest =>
    (c, false) :: marked (if '\x40' ≤ c ∧ c ≤ '\x7e' then .outside else .control) rest
  | .command last, c :: rest =>
    (c, false) :: marked
      (if c = '\x07' ∨ (c = '\\' ∧ last = '\x1b') then .outside else .command c) rest

/-- The characters that belong to no escape sequence. -/
def visible (cs : List Char) : List Char :=
  ((marked .outside cs).filter (·.2)).map (·.1)

/-- The number of columns that a text takes. -/
def columns (cs : List Char) : Nat := (visible cs).foldl (fun n c => n + width c) 0

/-! ## Words -/

/-- A word with its width and the number of spaces that follow it. -/
structure Word where
  chars : List Char
  width : Nat
  spaces : Nat
  deriving DecidableEq, Repr

/-- Characters as a word that `spaces` follow. -/
def Word.of (chars : List Char) (spaces : Nat) : Word := ⟨chars, columns chars, spaces⟩

/-- The characters without the spaces at their end. -/
def trimSpaces (cs : List Char) : List Char := (cs.reverse.dropWhile (· = ' ')).reverse

/-- A stretch of a line as a word. -/
def Word.ofStretch (cs : List Char) : Word :=
  .of (trimSpaces cs) (cs.length - (trimSpaces cs).length)

/-- The stretches of a list that begin at the marked elements. -/
def cutAt {α : Type} : List (α × Bool) → List (List α)
  | [] => []
  | (a, _) :: rest =>
    match rest, cutAt rest with
    | (_, false) :: _, part :: parts => (a :: part) :: parts
    | _, parts => [a] :: parts

/-- Keeps the marks that do not follow a hyphen or a soft hyphen; `before` is the character before
the first one. -/
def unlessHyphen (before : Option Char) : List (Char × Bool) → List (Char × Bool)
  | [] => []
  | (c, starts) :: rest =>
    (c, starts && before != some '-' && before != some '\u00AD') :: unlessHyphen (some c) rest

/-- Takes away the last mark. -/
def dropLastMark (cs : List (Char × Bool)) : List (Char × Bool) :=
  match cs.reverse.dropWhile (fun x => !x.2) with
  | (c, _) :: before =>
    before.reverse ++ (c, false) :: (cs.reverse.takeWhile fun x => !x.2).reverse
  | [] => cs

/-- Whether a word begins with each of the characters of a line. The end of a line counts as the
last place where it may be broken and is given up; but a line that ends with a hyphen cannot be
broken there, so the place before is given up instead. -/
def wordStarts (cs : List Char) : List Bool :=
  let marks := unlessHyphen none (cs.zip (LineBreak.allowed cs))
  let unbreakable := cs.getLast? == some '-' || cs.getLast? == some '\u00AD'
  (if unbreakable then dropLastMark marks else marks).map (·.2)

/-- Gives the marks of visible characters to a text with escape sequences; a sequence belongs to
the word after it. -/
def spread : List (Char × Bool) → List Bool → List (Char × Bool)
  | [], _ => []
  | (c, _) :: rest, [] => (c, false) :: spread rest []
  | (c, true) :: rest, starts :: more => (c, starts) :: spread rest more
  | (c, false) :: rest, starts :: more => (c, starts) :: spread rest (false :: more)

/-- The words of a line. -/
def lineWords (cs : List Char) : List Word :=
  (cutAt (spread (marked .outside cs) (wordStarts (visible cs)))).map Word.ofStretch

/-! ## Parts of words -/

/-- Puts a character before the first of some parts. -/
def addFirst (c : Char) : List (List Char) → List (List Char)
  | [] => [[c]]
  | part :: parts => (c :: part) :: parts

/-- Whether there is a letter or a digit. -/
def isAlphanumericAt (c : Option Char) : Bool := (c.map isAlphanumeric).getD false

/-- The parts of a word, which end with hyphens between letters or digits; `before` is the
character before the first one. -/
def hyphenParts (before : Option Char) : List Char → List (List Char)
  | [] => [[]]
  | c :: rest =>
    let parts := hyphenParts (some c) rest
    if c = '-' ∧ isAlphanumericAt before ∧ isAlphanumericAt rest.head? then [c] :: parts
    else addFirst c parts

/-- The parts of a word that each fit a width; `used` columns are taken already. -/
def fittingParts (limit : Nat) (used : Nat) : List (Char × Bool) → List (List Char)
  | [] => [[]]
  | (c, shown) :: rest =>
    if !shown then addFirst c (fittingParts limit used rest)
    else if 0 < used ∧ limit < used + width c then
      [] :: addFirst c (fittingParts limit (width c) rest)
    else addFirst c (fittingParts limit (used + width c) rest)

/-- Parts as words; the spaces follow the last one. -/
def Word.ofParts (spaces : Nat) : List (List Char) → List Word
  | [] => []
  | [part] => [.of part spaces]
  | part :: parts => Word.of part 0 :: Word.ofParts spaces parts

/-- The parts of a word after its hyphens. -/
def Word.atHyphens (word : Word) : List Word :=
  Word.ofParts word.spaces (hyphenParts none word.chars)

/-- The parts of a word that fit a width. -/
def Word.fitting (limit : Nat) (word : Word) : List Word :=
  if word.width ≤ limit then [word]
  else Word.ofParts word.spaces (fittingParts limit 0 (marked .outside word.chars))

/-! ## Lines -/

/-- Words on lines, the last line first, with what this costs. -/
structure Layout where
  lines : List (List Word) := []
  cost : Nat := 0

/-- What a line of some width costs: `last` says that no word follows and `single` that only one
word stands on it. -/
def lineCost (limit width : Nat) (last single : Bool) : Nat :=
  1000 +
    if limit < width then (width - limit) * 2500
    else if !last then (limit - width) * (limit - width)
    else if single ∧ 4 * width < limit then 25
    else 0

/-- The cheapest layout of words that ends with a line that begins in `history`, which holds the
words before the line, the last one first, each with the cheapest layout of all before it. Of two
lines that cost the same the longer one is taken. -/
def cheapest (limit : Nat) (last : Bool) (line : List Word) (width : Nat) :
    List (Layout × Word) → Option Layout
  | [] => none
  | (before, word) :: history =>
    let width := word.width + (if line.isEmpty then 0 else word.spaces) + width
    let layout : Layout :=
      ⟨(word :: line) :: before.lines, before.cost + lineCost limit width last line.isEmpty⟩
    match cheapest limit last (word :: line) width history with
    | some longer => if longer.cost ≤ layout.cost then some longer else some layout
    | none => some layout

/-- The cheapest layout of words. `history` holds the words before, as in `cheapest`, and `before`
is the cheapest layout of them. -/
def layoutFrom (limit : Nat) (history : List (Layout × Word)) (before : Layout) :
    List Word → Layout
  | [] => before
  | word :: rest =>
    let history := (before, word) :: history
    layoutFrom limit history ((cheapest limit rest.isEmpty [] 0 history).getD before) rest

/-- The text of a line: the words with the spaces between them. -/
def lineChars : List Word → List Char
  | [] => []
  | [word] => word.chars
  | word :: words => word.chars ++ List.replicate word.spaces ' ' ++ lineChars words

/-- The lines that a line is wrapped to. -/
def wrapLine (limit : Nat) (cs : List Char) : List (List Char) :=
  if (String.ofList cs).utf8ByteSize < limit then [trimSpaces cs]
  else
    let words := ((lineWords cs).flatMap Word.atHyphens).flatMap (Word.fitting limit)
    (layoutFrom limit [] {} words).lines.reverse.map lineChars

/-- The text with its lines wrapped. -/
def wrap (limit : Nat) (text : String) : String :=
  String.ofList (join ['\n'] ((splitWhen (· = '\n') text.toList).flatMap (wrapLine limit)))

end Adventure.Text
